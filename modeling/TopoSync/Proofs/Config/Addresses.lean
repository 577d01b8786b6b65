import Mathlib.Data.List.Basic
import TopoSync.Config.Address
import TopoSync.Proofs.Text.Digits

/-!
# Addresses read back

An address is read back from its text, however its groups are written: in full, with a gap for a run of
zero groups, or with the last two groups as bytes.  Wherever the gap is, the text on each side of it
tells the groups on that side, and the zero groups that it stands for are as many as are missing.
-/

namespace TopoSync

namespace IpAddress

open Numeral

theorem byte?_digits (b : UInt8) : byte? (digits 10 b.toNat) = some b := by
  have bound := b.toNat_lt
  have few : (digits 10 b.toNat).length ≤ 3 := length_digits_le (by decide) (by decide) (by omega)
  have plain : ¬ (3 < (digits 10 b.toNat).length ∨
      1 < (digits 10 b.toNat).length ∧ (digits 10 b.toNat).head? = some '0') := by
    rintro (long | ⟨several, zero⟩)
    · omega
    · have none := eq_zero_of_head? (by decide) (by decide) zero
      rw [none, digits_of_lt (by decide)] at several
      exact absurd several (by decide)
  rw [byte?, if_neg plain, value?_digits (by decide) (by decide), Option.bind_some, if_pos bound,
    UInt8.ofNat_toNat]

theorem group?_digits (g : UInt16) : group? (digits 16 g.toNat) = some g := by
  have bound := g.toNat_lt
  have few : (digits 16 g.toNat).length ≤ 4 := length_digits_le (by decide) (by decide) (by omega)
  rw [group?, if_neg (Nat.not_lt.mpr few), value?_digits (by decide) (by decide), Option.map_some,
    UInt16.ofNat_toNat]

/-- Digits are neither dots nor colons. -/
theorem digit_plain : ∀ d, d < 16 → digit d ≠ '.' ∧ digit d ≠ ':' := by
  decide

theorem not_mem_digits {base n : Nat} (two : 2 ≤ base) (limit : base ≤ 16) :
    '.' ∉ digits base n ∧ ':' ∉ digits base n := by
  have plain : ∀ c ∈ digits base n, c ≠ '.' ∧ c ≠ ':' := by
    intro c member
    obtain ⟨d, small, rfl⟩ := mem_digits two member
    exact digit_plain d (by omega)
  exact ⟨fun dot => (plain _ dot).1 rfl, fun colon => (plain _ colon).2 rfl⟩

theorem dotted_eq (a b c d : UInt8) :
    dotted a b c d =
      digits 10 a.toNat ++ '.' :: (digits 10 b.toNat ++ '.' :: (digits 10 c.toNat ++
        '.' :: digits 10 d.toNat)) := by
  simp [dotted, List.intercalate_cons_cons]

theorem colon_not_mem_dotted (a b c d : UInt8) : ':' ∉ dotted a b c d := by
  have plain : ∀ n : UInt8, ':' ∉ digits 10 n.toNat := fun n =>
    (not_mem_digits (by decide) (by decide)).2
  simp [dotted_eq, plain]

theorem ofDotted?_dotted (a b c d : UInt8) : ofDotted? (dotted a b c d) = some (a, b, c, d) := by
  have parts : (dotted a b c d).splitOn '.' = [a, b, c, d].map fun n => digits 10 n.toNat := by
    apply List.splitOn_intercalate
    · intro l member
      obtain ⟨n, _, rfl⟩ := List.mem_map.mp member
      exact (not_mem_digits (by decide) (by decide)).1
    · simp
  rw [ofDotted?, parts]
  simp only [List.map_cons, List.map_nil, byte?_digits]
  rfl

theorem splitOn_of_not_mem {c : Char} {cs : List Char} (absent : c ∉ cs) : cs.splitOn c = [cs] := by
  have one := @List.splitOn_intercalate _ [cs] _ _ c (by simpa using absent) (List.cons_ne_nil _ _)
  rwa [List.intercalate_singleton] at one

theorem ofDotted?_of_no_dot {cs : List Char} (plain : '.' ∉ cs) : ofDotted? cs = none := by
  rw [ofDotted?, splitOn_of_not_mem plain]

section Groups

variable (groups : List UInt16)

theorem colonList_cons (g h : UInt16) (rest : List UInt16) :
    colonList (g :: h :: rest) = digits 16 g.toNat ++ ':' :: colonList (h :: rest) := by
  rw [colonList, List.map_cons, List.map_cons, List.intercalate_cons_cons, List.append_assoc]
  rfl

theorem not_mem_colonList : '.' ∉ colonList groups := by
  induction groups with
  | nil => exact List.not_mem_nil
  | cons g rest ih =>
      cases rest with
      | nil =>
          rw [colonList, List.map_singleton, List.intercalate_singleton]
          exact (not_mem_digits (by decide) (by decide)).1
      | cons h rest =>
          rw [colonList_cons, List.mem_append, List.mem_cons, not_or, not_or]
          exact ⟨(not_mem_digits (by decide) (by decide)).1, by decide, ih⟩

theorem colonList_ne_nil {groups : List UInt16} (some : groups ≠ []) : colonList groups ≠ [] := by
  obtain ⟨g, rest, rfl⟩ := List.exists_cons_of_ne_nil some
  cases rest with
  | nil =>
      rw [colonList, List.map_singleton, List.intercalate_singleton]
      exact digits_ne_nil _ _
  | cons h rest =>
      rw [colonList_cons]
      simp

theorem splitOn_colonList {groups : List UInt16} (some : groups ≠ []) :
    (colonList groups).splitOn ':' = groups.map fun g => digits 16 g.toNat := by
  apply List.splitOn_intercalate
  · intro l member
    obtain ⟨g, _, rfl⟩ := List.mem_map.mp member
    exact (not_mem_digits (by decide) (by decide)).2
  · simpa using some

theorem mapM_group?_digits :
    (groups.map fun g => digits 16 g.toNat).mapM group? = some groups := by
  induction groups with
  | nil => rfl
  | cons g rest ih =>
      rw [List.map_cons, List.mapM_cons, group?_digits, ih]
      rfl

theorem lastGroups?_digits :
    lastGroups? (groups.map fun g => digits 16 g.toNat) = some groups := by
  induction groups with
  | nil => rfl
  | cons g rest ih =>
      cases rest with
      | nil =>
          have plain := ofDotted?_of_no_dot (@not_mem_digits 16 g.toNat (by decide)
            (by decide)).1
          rw [List.map_singleton, lastGroups?, plain, group?_digits]
          rfl
      | cons h rest =>
          rw [List.map_cons] at ih
          rw [List.map_cons, List.map_cons, lastGroups?, group?_digits, ih]
          · rfl
          · simp

/-- The groups on a side of a gap are read if they are read as parts. -/
theorem sideGroups?_colonList {read : List (List Char) → Option (List UInt16)}
    (reads : read (groups.map fun g => digits 16 g.toNat) = some groups) :
    sideGroups? read (colonList groups) = some groups := by
  by_cases none : groups = []
  · subst none
    rfl
  · have some := colonList_ne_nil none
    rw [sideGroups?, if_neg (by simpa using some), splitOn_colonList none, reads]

theorem cutGap_cons {c : Char} (plain : c ≠ ':') (rest : List Char) :
    cutGap (c :: rest) = (cutGap rest).map fun cut => (c :: cut.1, cut.2) := by
  rw [cutGap]
  exact fun _ colon _ => plain colon

theorem cutGap_colon {c : Char} (plain : c ≠ ':') (rest : List Char) :
    cutGap (':' :: c :: rest) = (cutGap (c :: rest)).map fun cut => (':' :: cut.1, cut.2) := by
  rw [cutGap]
  intro _ _ colon
  exact plain (List.cons.inj colon).1

theorem cutGap_append {cs : List Char} (plain : ':' ∉ cs) (rest : List Char) :
    cutGap (cs ++ rest) = (cutGap rest).map fun cut => (cs ++ cut.1, cut.2) := by
  induction cs with
  | nil => simp
  | cons c cs ih =>
      obtain ⟨first, others⟩ := List.ne_and_not_mem_of_not_mem_cons plain
      rw [List.cons_append, cutGap_cons first.symm, ih others, Option.map_map]
      rfl

/-- There is no gap before the end of a row of groups. -/
theorem cutGap_colonList (rest : List Char) :
    cutGap (colonList groups ++ rest) =
      (cutGap rest).map fun cut => (colonList groups ++ cut.1, cut.2) := by
  induction groups with
  | nil => simp [colonList]
  | cons g others ih =>
      have plain : ':' ∉ digits 16 g.toNat := (not_mem_digits (by decide) (by decide)).2
      cases others with
      | nil =>
          rw [colonList, List.map_singleton, List.intercalate_singleton]
          exact cutGap_append plain rest
      | cons h others =>
          -- a colon between groups is followed by a digit
          obtain ⟨c, cs, next⟩ := List.exists_cons_of_ne_nil (digits_ne_nil 16 h.toNat)
          have digit : c ≠ ':' := by
            rintro rfl
            exact (@not_mem_digits 16 h.toNat (by decide) (by decide)).2
              (by rw [next]; exact List.mem_cons_self)
          obtain ⟨cs', begins⟩ : ∃ cs', colonList (h :: others) = c :: cs' := by
            cases others with
            | nil => exact ⟨cs, by rw [colonList, List.map_singleton, List.intercalate_singleton, next]⟩
            | cons i others => exact ⟨_, by rw [colonList_cons, next, List.cons_append]⟩
          rw [colonList_cons, List.append_assoc, cutGap_append plain, begins, List.cons_append,
            List.cons_append, cutGap_colon digit, ← List.cons_append, ← begins, ih, Option.map_map,
            Option.map_map]
          congr 1
          funext cut
          simp

end Groups

/-- Eight groups in full. -/
theorem allGroups?_colonList {groups : List UInt16} (eight : groups.length = 8) :
    allGroups? (colonList groups) = some groups := by
  have some : groups ≠ [] := by
    rintro rfl
    cases eight
  have none : cutGap (colonList groups) = none := by
    have whole := cutGap_colonList groups []
    rwa [List.append_nil] at whole
  rw [allGroups?, none]
  dsimp only
  rw [splitOn_colonList some, lastGroups?_digits]

/-- Eight groups with a gap for some zero groups. -/
theorem allGroups?_gap (front back : List UInt16) {n : Nat} (positive : 0 < n)
    (eight : front.length + n + back.length = 8) :
    allGroups? (colonList front ++ [':', ':'] ++ colonList back) =
      some (front ++ List.replicate n 0 ++ back) := by
  have cut : cutGap (colonList front ++ [':', ':'] ++ colonList back) =
      some (colonList front, colonList back) := by
    rw [List.append_assoc, cutGap_colonList]
    simp [cutGap]
  have missing : 8 - front.length - back.length = n := by omega
  rw [allGroups?, cut]
  simp only [sideGroups?_colonList front (mapM_group?_digits front),
    sideGroups?_colonList back (lastGroups?_digits back), Option.bind_eq_bind, Option.bind_some]
  rw [if_pos (by omega), missing]

/-- The zero groups from a position on stand between those before and after them. -/
theorem take_zeros_drop (groups : List UInt16) (start : Nat) :
    groups.take start ++ List.replicate (zerosAt groups start) 0 ++
      groups.drop (start + zerosAt groups start) = groups := by
  have zeros : (groups.drop start).takeWhile (· == 0) = List.replicate (zerosAt groups start) 0 := by
    rw [List.eq_replicate_iff]
    refine ⟨rfl, fun g member => ?_⟩
    exact eq_of_beq (List.all_eq_true.mp List.all_takeWhile g member)
  have rest : groups.drop (start + zerosAt groups start) = (groups.drop start).dropWhile (· == 0) := by
    calc
      groups.drop (start + zerosAt groups start) =
          ((groups.drop start).takeWhile (· == 0) ++ (groups.drop start).dropWhile (· == 0)).drop
            ((groups.drop start).takeWhile (· == 0)).length := by
        rw [List.takeWhile_append_dropWhile, List.drop_drop, zerosAt]
      _ = (groups.drop start).dropWhile (· == 0) := List.drop_left
  rw [← zeros, rest, List.append_assoc, List.takeWhile_append_dropWhile, List.take_append_drop]

theorem pair_bytes (g : UInt16) : pair (UInt8.ofNat (g.toNat / 256)) (UInt8.ofNat g.toNat) = g := by
  have bound := g.toNat_lt
  apply UInt16.toNat_inj.mp
  rw [pair, UInt16.toNat_ofNat', UInt8.toNat_ofNat', UInt8.toNat_ofNat']
  omega

/-- Addresses that embed four bytes show these as bytes. -/
theorem allGroups?_embedded (high low : UInt16) :
    allGroups? (groupText [0, 0, 0, 0, 0, 0xFFFF, high, low]) =
      some [0, 0, 0, 0, 0, 0xFFFF, high, low] := by
  let tail := dotted (UInt8.ofNat (high.toNat / 256)) (UInt8.ofNat high.toNat)
    (UInt8.ofNat (low.toNat / 256)) (UInt8.ofNat low.toNat)
  have cut : cutGap (groupText [0, 0, 0, 0, 0, 0xFFFF, high, low]) =
      some ([], "ffff".toList ++ ':' :: tail) := rfl
  have parts : ("ffff".toList ++ ':' :: tail).splitOn ':' = ["ffff".toList, tail] := by
    have two := @List.splitOn_intercalate _ ["ffff".toList, tail] _ _ ':'
      (by simp [tail, colon_not_mem_dotted]) (List.cons_ne_nil _ _)
    rwa [List.intercalate_cons_cons, List.intercalate_singleton, List.append_assoc] at two
  have embedded : lastGroups? ["ffff".toList, tail] = some [0xFFFF, high, low] := by
    have group : group? "ffff".toList = some 0xFFFF := by decide
    rw [lastGroups?, lastGroups?, group, ofDotted?_dotted]
    · simp only [pair_bytes]
      rfl
    · simp
  have back : sideGroups? lastGroups? ("ffff".toList ++ ':' :: tail) = some [0xFFFF, high, low] := by
    rw [sideGroups?, if_neg (by simp), parts, embedded]
  rw [allGroups?, cut]
  simp only [back, Option.bind_eq_bind]
  rfl

/-- The text of eight groups is read as these groups. -/
theorem allGroups?_groupText {groups : List UInt16} (eight : groups.length = 8) :
    allGroups? (groupText groups) = some groups := by
  unfold groupText
  split
  · exact allGroups?_embedded _ _
  · dsimp only
    split
    · rename_i gap
      have whole := take_zeros_drop groups (gapStart groups)
      have length := congrArg List.length whole
      rw [List.length_append, List.length_append, List.length_replicate, eight] at length
      rw [allGroups?_gap _ _ (Nat.zero_lt_of_lt gap) length, whole]
    · exact allGroups?_colonList eight

/-- The text of eight groups is not that of four bytes. -/
theorem ofDotted?_groupText {groups : List UInt16} : ofDotted? (groupText groups) = none := by
  unfold groupText
  split
  · rename_i high low
    -- what stands before the first dot is longer than a byte
    have plain : ∀ n, '.' ∉ digits 10 n := fun n => (not_mem_digits (by decide) (by decide)).1
    generalize UInt8.ofNat (high.toNat / 256) = a
    generalize UInt8.ofNat (low.toNat / 256) = c
    have parts : ("::ffff:".toList ++ dotted a (UInt8.ofNat high.toNat) c (UInt8.ofNat low.toNat)).splitOn
        '.' = ["::ffff:".toList ++ digits 10 a.toNat, digits 10 (UInt8.ofNat high.toNat).toNat,
          digits 10 c.toNat, digits 10 (UInt8.ofNat low.toNat).toNat] := by
      rw [← @List.splitOn_intercalate _ ["::ffff:".toList ++ digits 10 a.toNat, _, _, _] _ _ '.'
        (by simp [plain]) (List.cons_ne_nil _ _)]
      simp [dotted_eq, List.intercalate_cons_cons]
    have long : byte? ("::ffff:".toList ++ digits 10 a.toNat) = none := by
      rw [byte?, if_pos (.inl (by simp))]
    rw [ofDotted?, parts]
    dsimp only
    rw [long]
    rfl
  · dsimp only
    split
    · apply ofDotted?_of_no_dot
      simp [not_mem_colonList]
    · exact ofDotted?_of_no_dot (not_mem_colonList _)

/-- An address is read back from its text. -/
theorem ofText?_text (address : IpAddress) : ofText? address.text = some address := by
  cases address with
  | v4 a b c d =>
      rw [ofText?, text, String.toList_ofList, ofDotted?_dotted]
  | v6 groups =>
      rw [ofText?, text, String.toList_ofList, ofDotted?_groupText]
      simp only [allGroups?_groupText groups.length_eq, Option.bind_eq_bind, Option.bind_some]
      rw [dif_pos groups.length_eq]

end IpAddress

end TopoSync
