import Mathlib.Data.List.TakeWhile
import WideColumn.Address.Reader
import WideColumn.Proofs.Text.Digits

/-! # Reading addresses

The canonical text of an address is read as the address, be it four decimal bytes, eight groups with
or without a run of zeros left out, or a long address that shows the short one it stands for. -/

namespace WideColumn.Address

open Text (Reader Stops isHexDigit)
open Text.Reader (char bind_of_eq_some bind_of_eq_none char_append)

/-! ## Short addresses -/

/-- A decimal byte is read up to where its digits stop. -/
theorem byte_numeral (b : UInt8) {rest : List Char} (hrest : Stops Char.isDigit rest) :
    byte (Text.numeral b.toNat ++ rest) = some (b, rest) := by
  have hb := b.toNat_lt
  have hdigits : (Text.numeral b.toNat ++ rest).takeWhile Char.isDigit = Text.numeral b.toNat :=
    Text.takeWhile_append (fun c => Text.isDigit_of_mem_numeral) hrest
  have hplain : (Text.numeral b.toNat).length = 1 ∨
      ((Text.numeral b.toNat).length ≤ 3 ∧ (Text.numeral b.toNat).head? ≠ some '0') := by
    by_cases hzero : b.toNat = 0
    · rw [hzero]
      exact Or.inl rfl
    · exact Or.inr ⟨Text.length_numeral_le (by decide) (by omega), Text.head?_numeral_ne hzero⟩
  simp only [byte]
  rw [hdigits, Text.digitsValue_numeral,
    if_pos ⟨Text.numeral_ne_nil _, decide_eq_true hplain, hb⟩, List.drop_left, UInt8.ofNat_toNat]

theorem fourBytes_dotted (a b c d : UInt8) {rest : List Char} (hrest : Stops Char.isDigit rest) :
    fourBytes (dotted a b c d ++ rest) = some ((a, b, c, d), rest) := by
  have hpoint : ∀ rest, Stops Char.isDigit ('.' :: rest) := fun rest => Text.stops_cons.mpr rfl
  simp only [dotted, List.append_assoc, List.cons_append]
  rw [fourBytes, bind_of_eq_some (byte_numeral a (hpoint _)), bind_of_eq_some (char_append ..),
    bind_of_eq_some (byte_numeral b (hpoint _)), bind_of_eq_some (char_append ..),
    bind_of_eq_some (byte_numeral c (hpoint _)), bind_of_eq_some (char_append ..),
    bind_of_eq_some (byte_numeral d hrest)]
  rfl

theorem fourBytes_dotted_self (a b c d : UInt8) :
    fourBytes (dotted a b c d) = some ((a, b, c, d), []) := by
  simpa only [List.append_nil] using fourBytes_dotted a b c d (Text.stops_nil Char.isDigit)

/-- Without a point there are no four bytes. -/
theorem fourBytes_eq_none {cs : List Char} (h : '.' ∉ cs) : fourBytes cs = none := by
  cases hbyte : byte cs with
  | none => exact bind_of_eq_none hbyte _
  | some found =>
    have hrest : '.' ∉ found.2 := by
      simp only [byte] at hbyte
      split at hbyte
      · cases hbyte
        exact fun hmem => h (List.mem_of_mem_drop hmem)
      · cases hbyte
    have hchar : char '.' found.2 = none := by
      cases hcs : found.2 with
      | nil => rfl
      | cons c rest =>
        have hc : c ≠ '.' := by
          rintro rfl
          exact hrest (by rw [hcs]; exact List.mem_cons_self)
        exact if_neg hc
    rw [fourBytes, bind_of_eq_some hbyte, bind_of_eq_none hchar]

/-- Four bytes begin with a digit. -/
theorem fourBytes_of_stops {cs : List Char} (h : Stops Char.isDigit cs) : fourBytes cs = none := by
  have hbyte : byte cs = none := by
    simp only [byte]
    rw [Text.takeWhile_of_stops h]
    rfl
  exact bind_of_eq_none hbyte _

/-! ## Groups -/

/-- The digits of a group. -/
def groupText (g : UInt16) : List Char := Nat.toDigits 16 g.toNat

/-- Groups, each behind a colon. -/
def tailText (gs : List UInt16) : List Char := gs.flatMap fun g => ':' :: groupText g

theorem colonated_cons (g : UInt16) (gs : List UInt16) :
    colonated (g :: gs) = groupText g ++ tailText gs := by
  induction gs generalizing g with
  | nil => simp [colonated, groupText, tailText]
  | cons h gs ih =>
    have hnext := ih h
    simp only [colonated, List.map_cons, tailText, List.flatMap_cons] at hnext ⊢
    rw [List.intercalate_cons_cons, hnext]
    simp [groupText]

theorem isHexDigit_of_mem_groupText {g : UInt16} {c : Char} (h : c ∈ groupText g) :
    isHexDigit c = true := Text.isHexDigit_of_mem_toDigits h

/-- A group is read up to where its digits stop. -/
theorem group_groupText (g : UInt16) {rest : List Char} (hrest : Stops isHexDigit rest) :
    group (groupText g ++ rest) = some (g, rest) := by
  have hg := g.toNat_lt
  have hdigits : (groupText g ++ rest).takeWhile (fun c => (Text.hexValue? c).isSome) =
      groupText g := Text.takeWhile_append (fun c => isHexDigit_of_mem_groupText) hrest
  have hlength : (groupText g).length ≤ 4 :=
    (Nat.length_toDigits_le_iff (by decide) (by decide)).mpr (by omega)
  simp only [group]
  rw [hdigits, if_pos ⟨Nat.toDigits_ne_nil, hlength⟩, groupText, Text.hexNumber?_toDigits,
    List.drop_left, Option.map_some, UInt16.ofNat_toNat]

theorem group_of_stops {cs : List Char} (h : Stops isHexDigit cs) : group cs = none := by
  have hdigits : cs.takeWhile (fun c => (Text.hexValue? c).isSome) = [] :=
    Text.takeWhile_of_stops h
  simp only [group]
  rw [hdigits]
  rfl

/-- One more group is taken off, where no decimal bytes stand in its place. -/
theorem groups_succ {limit : Nat} {first : Bool} {cs body rest : List Char} {g : UInt16}
    (hbody : (if first then some ((), cs) else char ':' cs) = some ((), body))
    (hbytes : fourBytes body = none) (hgroup : group body = some (g, rest)) :
    groups (limit + 1) first cs =
      (g :: (groups limit false rest).1, (groups limit false rest).2) := by
  have hnone : (if 1 ≤ limit then fourBytes body else none) = none := by
    rw [hbytes, ite_self]
  simp only [groups]
  rw [hbody]
  simp only [hnone, hgroup]

/-- Four decimal bytes are the last two groups. -/
theorem groups_bytes {limit : Nat} {first : Bool} {cs body rest : List Char} {a b c d : UInt8}
    (hbody : (if first then some ((), cs) else char ':' cs) = some ((), body)) (hlimit : 1 ≤ limit)
    (hbytes : fourBytes body = some ((a, b, c, d), rest)) :
    groups (limit + 1) first cs = ([joinBytes a b, joinBytes c d], rest, true) := by
  simp only [groups]
  rw [hbody]
  simp only [if_pos hlimit, hbytes]

/-- Where there is neither a group nor four bytes, no groups are taken off. -/
theorem groups_of_stops {cs : List Char} (hdigit : Stops isHexDigit cs)
    (hbytes : fourBytes cs = none) (limit : Nat) : groups limit true cs = ([], cs, false) := by
  cases limit with
  | zero => rfl
  | succ limit =>
    simp only [groups, hbytes, group_of_stops hdigit, ite_self, if_true]

/-- Whether groups of an address end here. -/
def Ends (rest : List Char) : Prop :=
  rest = [] ∨ ∃ back, rest = ':' :: ':' :: back ∧ '.' ∉ back

namespace Ends

variable {rest : List Char}

theorem stops (h : Ends rest) : Stops isHexDigit rest := by
  rcases h with rfl | ⟨back, rfl, -⟩
  · exact Text.stops_nil _
  · exact Text.stops_cons.mpr rfl

theorem pointless (h : Ends rest) : '.' ∉ rest := by
  rcases h with rfl | ⟨back, rfl, hback⟩
  · exact List.not_mem_nil
  · simp [hback]

theorem stops_digit (h : Ends rest) : Stops Char.isDigit rest := by
  rcases h with rfl | ⟨back, rfl, -⟩
  · exact Text.stops_nil _
  · exact Text.stops_cons.mpr rfl

theorem groups_first (h : Ends rest) (limit : Nat) : groups limit true rest = ([], rest, false) :=
  groups_of_stops h.stops (fourBytes_of_stops h.stops_digit) limit

theorem groups_next (h : Ends rest) (limit : Nat) :
    groups limit false rest = ([], rest, false) := by
  cases limit with
  | zero => rfl
  | succ limit =>
    rcases h with rfl | ⟨back, rfl, -⟩
    · rfl
    · -- Behind the first colon stands the second one.
      have hcolon : ∀ p : Char → Bool, p ':' = false → Stops p (':' :: back) := fun p =>
        Text.stops_cons.mpr
      simp only [groups, Bool.false_eq_true, if_false, char_append,
        fourBytes_of_stops (hcolon _ rfl), group_of_stops (hcolon _ rfl), ite_self]

end Ends

theorem stops_tailText (gs : List UInt16) {rest : List Char} (hrest : Stops isHexDigit rest) :
    Stops isHexDigit (tailText gs ++ rest) := by
  cases gs with
  | nil => exact hrest
  | cons g gs => exact Text.stops_cons.mpr rfl

theorem isHexDigit_or_colon {gs : List UInt16} {c : Char} (h : c ∈ tailText gs) :
    isHexDigit c = true ∨ c = ':' := by
  obtain ⟨g, -, hg⟩ := List.mem_flatMap.mp h
  rcases List.mem_cons.mp hg with hg | hg
  · exact Or.inr hg
  · exact Or.inl (isHexDigit_of_mem_groupText hg)

theorem isHexDigit_or_colon_of_mem_colonated {gs : List UInt16} {c : Char}
    (h : c ∈ colonated gs) : isHexDigit c = true ∨ c = ':' := by
  cases gs with
  | nil => cases h
  | cons g gs =>
    rw [colonated_cons] at h
    rcases List.mem_append.mp h with h | h
    · exact Or.inl (isHexDigit_of_mem_groupText h)
    · exact isHexDigit_or_colon h

/-- A text of digits and colons has no points. -/
theorem ne_point {c : Char} (h : isHexDigit c = true ∨ c = ':') : c ≠ '.' := by
  rintro rfl
  rcases h with h | h <;> cases h

/-- The first of several groups is taken off. -/
theorem groups_cons {limit : Nat} {first : Bool} {cs rest : List Char} {g : UInt16}
    {gs : List UInt16} (hrest : Ends rest)
    (hbody : (if first then some ((), cs) else char ':' cs) =
      some ((), groupText g ++ (tailText gs ++ rest))) :
    groups (limit + 1) first cs =
      (g :: (groups limit false (tailText gs ++ rest)).1,
        (groups limit false (tailText gs ++ rest)).2) := by
  refine groups_succ hbody (fourBytes_eq_none ?_)
    (group_groupText g (stops_tailText gs hrest.stops))
  intro hpoint
  rcases List.mem_append.mp hpoint with h | h
  · exact ne_point (Or.inl (isHexDigit_of_mem_groupText h)) rfl
  · rcases List.mem_append.mp h with h | h
    · exact ne_point (isHexDigit_or_colon h) rfl
    · exact hrest.pointless h

/-- Groups behind colons are taken off up to where they end. -/
theorem groups_tailText (gs : List UInt16) {limit : Nat} {rest : List Char}
    (hlimit : gs.length ≤ limit) (hrest : Ends rest) :
    groups limit false (tailText gs ++ rest) = (gs, rest, false) := by
  induction gs generalizing limit with
  | nil => exact hrest.groups_next limit
  | cons g gs ih =>
    cases limit with
    | zero => cases hlimit
    | succ limit =>
      have htext : tailText (g :: gs) ++ rest =
          ':' :: (groupText g ++ (tailText gs ++ rest)) := by
        simp [tailText]
      have hbody : (if false = true then some ((), tailText (g :: gs) ++ rest)
          else char ':' (tailText (g :: gs) ++ rest)) =
            some ((), groupText g ++ (tailText gs ++ rest)) := by
        rw [htext]
        exact char_append ':' _
      rw [groups_cons hrest hbody, ih (Nat.le_of_succ_le_succ hlimit)]

/-- The groups of a long address are taken off up to where they end. -/
theorem groups_colonated (gs : List UInt16) {limit : Nat} {rest : List Char}
    (hlimit : gs.length ≤ limit) (hrest : Ends rest) :
    groups limit true (colonated gs ++ rest) = (gs, rest, false) := by
  cases gs with
  | nil => exact hrest.groups_first limit
  | cons g gs =>
    cases limit with
    | zero => cases hlimit
    | succ limit =>
      rw [colonated_cons, List.append_assoc, groups_cons hrest rfl,
        groups_tailText gs (Nat.le_of_succ_le_succ hlimit) hrest]

/-! ## Long addresses -/

/-- The longest run of zero groups lies within the groups and holds zeros alone. -/
theorem zeroRun_spec (gs : List UInt16) :
    (zeroRun gs).1 + (zeroRun gs).2 ≤ gs.length ∧
      gs.take (zeroRun gs).1 ++ List.replicate (zeroRun gs).2 0 ++
        gs.drop ((zeroRun gs).1 + (zeroRun gs).2) = gs := by
  induction gs with
  | nil => exact ⟨Nat.le_refl 0, rfl⟩
  | cons g rest ih =>
    obtain ⟨hle, heq⟩ := ih
    simp only [zeroRun]
    split
    · next hlonger =>
      -- The run that begins here is the longest one.
      obtain ⟨run, after, hrun, hsplit, hzeros⟩ : ∃ run after : List UInt16,
          (g :: rest).takeWhile (· == 0) = run ∧ run ++ after = g :: rest ∧ ∀ h ∈ run, h = 0 :=
        ⟨_, _, rfl, List.takeWhile_append_dropWhile, fun h hh => by
          simpa using List.mem_takeWhile_imp hh⟩
      rw [hrun, ← hsplit]
      refine ⟨?_, ?_⟩
      · rw [Nat.zero_add, List.length_append]
        exact Nat.le_add_right _ _
      · rw [List.take_zero, List.nil_append, Nat.zero_add, List.drop_left,
          ← List.eq_replicate_of_mem hzeros]
    · refine ⟨?_, ?_⟩
      · rw [List.length_cons]
        omega
      · have hsum : (zeroRun rest).1 + 1 + (zeroRun rest).2 =
            (zeroRun rest).1 + (zeroRun rest).2 + 1 := by omega
        rw [hsum, List.take_succ_cons, List.drop_succ_cons, List.cons_append, List.cons_append, heq]

/-- The address of groups that are known. -/
theorem v6_of_eq {all gs : List UInt16} (h : all = gs) (size : gs.length = 8) (rest : List Char) :
    (if full : all.length = 8 then some (v6 all full, rest) else none) =
      some (v6 gs size, rest) := by
  subst h
  rw [dif_pos size]

/-- Eight groups are a long address. -/
theorem long_colonated (gs : List UInt16) (size : gs.length = 8) :
    long (colonated gs) = some (v6 gs size, []) := by
  have hgroups : groups 8 true (colonated gs ++ []) = (gs, [], false) :=
    groups_colonated gs (by omega) (Or.inl rfl)
  rw [List.append_nil] at hgroups
  simp only [long, hgroups]
  rw [dif_pos size]

/-- Groups before and behind two colons are a long address with zeros in between. -/
theorem long_colons (front back gs : List UInt16) (count : Nat) (size : gs.length = 8)
    (hcount : 2 ≤ count) (heq : front ++ List.replicate count 0 ++ back = gs) :
    long (colonated front ++ [':', ':'] ++ colonated back) = some (v6 gs size, []) := by
  have hlength : front.length + count + back.length = 8 := by
    rw [← size, ← heq, List.length_append, List.length_append, List.length_replicate]
  have hpoint : '.' ∉ colonated back := fun h =>
    ne_point (isHexDigit_or_colon_of_mem_colonated h) rfl
  have hfront : groups 8 true (colonated front ++ [':', ':'] ++ colonated back) =
      (front, ':' :: ':' :: colonated back, false) := by
    rw [List.append_assoc]
    exact groups_colonated front (by omega) (Or.inr ⟨colonated back, rfl, hpoint⟩)
  have hback : groups (7 - front.length) true (colonated back ++ []) = (back, [], false) :=
    groups_colonated back (by omega) (Or.inl rfl)
  rw [List.append_nil] at hback
  have hzeros : 8 - front.length - back.length = count := by omega
  simp only [long, hfront]
  rw [dif_neg (by omega)]
  simp only [hback, hzeros]
  exact v6_of_eq heq size []

/-- The longest run of zero groups is left out where it is longer than one. -/
theorem long_grouped (gs : List UInt16) (size : gs.length = 8) :
    long (grouped gs) = some (v6 gs size, []) := by
  obtain ⟨-, heq⟩ := zeroRun_spec gs
  simp only [grouped]
  split
  · next hcount => exact long_colons _ _ gs _ size hcount heq
  · exact long_colonated gs size

theorem isHexDigit_or_colon_of_mem_grouped {gs : List UInt16} {c : Char} (h : c ∈ grouped gs) :
    isHexDigit c = true ∨ c = ':' := by
  simp only [grouped] at h
  split at h
  · rcases List.mem_append.mp h with h | h
    · rcases List.mem_append.mp h with h | h
      · exact isHexDigit_or_colon_of_mem_colonated h
      · exact Or.inr (by simpa using h)
    · exact isHexDigit_or_colon_of_mem_colonated h
  · exact isHexDigit_or_colon_of_mem_colonated h

theorem joinBytes_groupBytes (g : UInt16) : joinBytes (groupBytes g).1 (groupBytes g).2 = g := by
  have hg := g.toNat_lt
  have hvalue : 256 * (UInt8.ofNat (g.toNat / 256)).toNat + (UInt8.ofNat g.toNat).toNat =
      g.toNat := by
    rw [UInt8.toNat_ofNat', UInt8.toNat_ofNat']
    omega
  rw [joinBytes, groupBytes, hvalue, UInt16.ofNat_toNat]

/-- Behind the mark of short addresses four decimal bytes are the last two groups. -/
theorem long_mapped (g h : UInt16) :
    long ("::ffff:".toList ++
        dotted (groupBytes g).1 (groupBytes g).2 (groupBytes h).1 (groupBytes h).2) =
      some (v6 [0, 0, 0, 0, 0, 0xFFFF, g, h] rfl, []) := by
  generalize hbytes : dotted (groupBytes g).1 (groupBytes g).2 (groupBytes h).1 (groupBytes h).2 =
    bytes
  have hfour := fourBytes_dotted_self (groupBytes g).1 (groupBytes g).2 (groupBytes h).1
    (groupBytes h).2
  rw [hbytes] at hfour
  have hlast : groups 6 false (':' :: bytes) = ([g, h], [], true) := by
    have hbody : (if false = true then some ((), ':' :: bytes) else char ':' (':' :: bytes)) =
        some ((), bytes) := char_append ':' bytes
    show groups (5 + 1) false _ = _
    rw [groups_bytes hbody (by decide) hfour, joinBytes_groupBytes, joinBytes_groupBytes]
  have hback : groups (7 - ([] : List UInt16).length) true
      ('f' :: 'f' :: 'f' :: 'f' :: ':' :: bytes) =
      ([0xFFFF, g, h], [], true) := by
    have hmark : group ('f' :: 'f' :: 'f' :: 'f' :: ':' :: bytes) = some (0xFFFF, ':' :: bytes) :=
      group_groupText 0xFFFF (Text.stops_cons.mpr rfl)
    show groups (6 + 1) true _ = _
    rw [groups_succ rfl (fourBytes_of_stops (Text.stops_cons.mpr rfl)) hmark, hlast]
  have hfront : groups 8 true (':' :: ':' :: 'f' :: 'f' :: 'f' :: 'f' :: ':' :: bytes) =
      ([], ':' :: ':' :: 'f' :: 'f' :: 'f' :: 'f' :: ':' :: bytes, false) :=
    groups_of_stops (Text.stops_cons.mpr rfl) (fourBytes_of_stops (Text.stops_cons.mpr rfl)) 8
  show long (':' :: ':' :: 'f' :: 'f' :: 'f' :: 'f' :: ':' :: bytes) = _
  simp only [long, hfront]
  rw [dif_neg (by decide)]
  simp only [hback]
  rfl

/-! ## All addresses -/

theorem toChars_v4 (a b c d : UInt8) : (v4 a b c d).toChars = dotted a b c d := rfl

/-- A long address shows the short one that it stands for, or else its groups. -/
theorem toChars_v6 (gs : List UInt16) (size : gs.length = 8) :
    (∃ g h, gs = [0, 0, 0, 0, 0, 0xFFFF, g, h] ∧ (v6 gs size).toChars = "::ffff:".toList ++
        dotted (groupBytes g).1 (groupBytes g).2 (groupBytes h).1 (groupBytes h).2) ∨
      (v6 gs size).toChars = grouped gs := by
  delta toChars
  dsimp only
  split
  · next g h _ => exact Or.inl ⟨g, h, rfl, rfl⟩
  · exact Or.inr rfl

/-- **The canonical text of an address is read as the address.** -/
theorem read?_toChars (a : Address) : read? a.toChars = some a := by
  cases a with
  | v4 a b c d =>
    have hshort : short (dotted a b c d) = some (v4 a b c d, []) := by
      rw [short, bind_of_eq_some (fourBytes_dotted_self a b c d)]
      rfl
    rw [toChars_v4, read?, Text.Reader.whole_of_eq_some hshort]
    rfl
  | v6 gs size =>
    -- No long address begins like a short one, not even one that shows a short one.
    have hlong : ∀ cs : List Char, fourBytes cs = none → long cs = some (v6 gs size, []) →
        read? cs = some (v6 gs size) := by
      intro cs hbytes hcs
      have hshort : short cs = none := bind_of_eq_none hbytes _
      rw [read?, Text.Reader.whole_of_eq_none hshort, Text.Reader.whole_of_eq_some hcs]
      rfl
    rcases toChars_v6 gs size with ⟨g, h, rfl, htext⟩ | htext
    · rw [htext]
      exact hlong _ (fourBytes_of_stops (Text.stops_cons.mpr rfl)) (long_mapped g h)
    · rw [htext]
      refine hlong _ (fourBytes_eq_none fun hpoint => ?_) (long_grouped gs size)
      exact ne_point (isHexDigit_or_colon_of_mem_grouped hpoint) rfl

theorem isBlank_of_mem_dotted {a b c d : UInt8} {x : Char} (h : x ∈ dotted a b c d) :
    Text.isBlank x = false := by
  have digit : ∀ {n : Nat}, x ∈ Text.numeral n → Text.isBlank x = false := fun h =>
    Text.isBlank_of_isDigit (Text.isDigit_of_mem_numeral h)
  have point : x = '.' → Text.isBlank x = false := by
    rintro rfl
    rfl
  simp only [dotted, List.mem_append, List.mem_cons] at h
  rcases h with ((h | h | h) | h | h) | h | h
  exacts [digit h, point h, digit h, point h, digit h, point h, digit h]

/-- An address has no white space around it. -/
theorem isBlank_of_mem_toChars {a : Address} {c : Char} (h : c ∈ a.toChars) :
    Text.isBlank c = false := by
  have digit : isHexDigit c = true ∨ c = ':' → Text.isBlank c = false := by
    rintro (h | rfl)
    · exact Text.isBlank_of_isHexDigit h
    · rfl
  cases a with
  | v4 a b c d => exact isBlank_of_mem_dotted h
  | v6 gs size =>
    rcases toChars_v6 gs size with ⟨g, h', -, htext⟩ | htext
    · rw [htext] at h
      rcases List.mem_append.mp h with h | h
      · exact Text.isBlank_eq_false_of_all rfl c h
      · exact isBlank_of_mem_dotted h
    · rw [htext] at h
      exact digit (isHexDigit_or_colon_of_mem_grouped h)

end WideColumn.Address
