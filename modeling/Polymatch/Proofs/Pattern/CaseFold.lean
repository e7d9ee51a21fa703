import Polymatch.Pattern.Token
import Polymatch.Proofs.Interval.Unique
import Polymatch.Proofs.Unicode.Case

/-! # Classes that ignore case

Folding case adds the partners of the units that are listed, and not the partners of
these. The folded class is closed under partners unless it lists a letter from which two
mappings lead out of it, and just then folding it again changes nothing.
-/

namespace Polymatch.Pattern

open Polymatch.Interval (covers Normal)
open Unicode.Case (Maps distantCases asciiCases)

variable {l items : List Interval} {cs rest : List Char} {p : Pattern} {u v w x : Nat} {negated : Bool}

theorem mem_casePartners : v ∈ casePartners u ↔ Maps u v ∧ v < Text.unitLimit := by
  simp [casePartners, Maps, or_and_right]

/-- The class has the case partners of all its units. -/
def Closed (l : List Interval) : Prop := ∀ u v, covers l u = true → v ∈ casePartners u → covers l v = true

/-- Wherever two mappings lead from a unit to a third letter, the folded class has that letter. -/
def Settled (l : List Interval) : Prop :=
  ∀ d ∈ distantCases, covers l d.1 = true → covers (foldCase l) d.2 = true

theorem covers_singles {units : List Nat} : covers (units.map .single) x = true ↔ x ∈ units := by
  rw [Interval.covers_iff]
  constructor
  · rintro ⟨i, hi, hlo, hhi⟩
    obtain ⟨n, hn, rfl⟩ := List.mem_map.1 hi
    obtain rfl : n = x := Nat.le_antisymm hlo (Nat.le_of_lt_succ hhi)
    exact hn
  · exact fun hx => ⟨.single x, List.mem_map_of_mem hx, Nat.le_refl x, Nat.lt_succ_self x⟩

/-- The folded class has the units that are listed and their partners. -/
theorem covers_foldCase :
    covers (foldCase l) x = true ↔ covers l x = true ∨ ∃ u, covers l u = true ∧ x ∈ casePartners u := by
  have hunits : (∃ u, covers l u = true ∧ x ∈ casePartners u) ↔
      x ∈ l.flatMap fun r => (List.range' r.lo (r.hi - r.lo)).flatMap casePartners := by
    simp only [Interval.covers_iff, List.mem_flatMap, List.mem_range'_1]
    constructor
    · rintro ⟨u, ⟨r, hr, hlo, hhi⟩, hx⟩
      exact ⟨r, hr, u, ⟨hlo, by omega⟩, hx⟩
    · rintro ⟨r, hr, u, ⟨hlo, hhi⟩, hx⟩
      exact ⟨u, ⟨r, hr, hlo, by omega⟩, hx⟩
  rw [foldCase, Interval.covers_normalize, Interval.covers_append, covers_singles, hunits]

theorem normal_foldCase (l : List Interval) : Normal (foldCase l) := Interval.normal_normalize _

theorem covers_foldCase_of_partner (hu : covers l u = true) (hv : v ∈ casePartners u) :
    covers (foldCase l) v = true :=
  covers_foldCase.2 (.inr ⟨u, hu, hv⟩)

/-- What two mappings lead to from a listed unit is in the folded class, or listed as distant. -/
theorem covers_foldCase_of_maps (hw : covers l w = true) (hu : Maps w u) (hv : Maps u v) (hlimit : v < Text.unitLimit) :
    covers (foldCase l) v = true ∨ (w, v) ∈ distantCases := by
  rcases hu.trans hv with rfl | hmaps | hdistant
  · exact .inl (covers_foldCase.2 (.inl hw))
  · exact .inl (covers_foldCase_of_partner hw (mem_casePartners.2 ⟨hmaps, hlimit⟩))
  · exact .inr hdistant

theorem closed_foldCase_iff : Closed (foldCase l) ↔ Settled l := by
  constructor
  · intro h d hd hu
    obtain ⟨p, hp, hfirst, hsecond, -⟩ := Unicode.Case.exists_between hd
    have hpartner := covers_foldCase_of_partner hu (mem_casePartners.2 ⟨hfirst, hp⟩)
    exact h p d.2 hpartner (mem_casePartners.2 ⟨hsecond, Unicode.Case.lt_of_distant hd⟩)
  · intro h u v hu hv
    obtain ⟨hmaps, hlimit⟩ := mem_casePartners.1 hv
    rcases covers_foldCase.1 hu with hu | ⟨w, hw, hu⟩
    · exact covers_foldCase_of_partner hu hv
    · -- the unit is a partner itself, so two mappings lead to the other one
      rcases covers_foldCase_of_maps hw (mem_casePartners.1 hu).1 hmaps hlimit with hcovers | hdistant
      · exact hcovers
      · exact h _ hdistant hw

/-- Folding a class again changes nothing just if the folded class is closed. -/
theorem foldCase_foldCase_iff : foldCase (foldCase l) = foldCase l ↔ Settled l := by
  rw [← closed_foldCase_iff]
  constructor
  · intro h u v hu hv
    rw [← h]
    exact covers_foldCase_of_partner hu hv
  · intro h
    refine (normal_foldCase _).eq_of_covers (normal_foldCase l) fun x => ?_
    rw [covers_foldCase]
    constructor
    · rintro (hx | ⟨u, hu, hx⟩)
      · exact hx
      · exact h u x hu hx
    · exact .inl

/-! ## Negated classes -/

/-- A unit outside of the folded class has a partner in it that is not mapped back. -/
def Leaks (l : List Interval) : Prop :=
  ∃ u v, u < Text.unitLimit ∧ v ∈ casePartners u ∧ u ∉ casePartners v ∧
    covers (foldCase l) v = true ∧ covers (foldCase l) u = false

theorem closed_complement_iff :
    Closed (Interval.complement (foldCase l) Text.unitLimit) ↔ Settled l ∧ ¬ Leaks l := by
  have hcovers : ∀ x, covers (Interval.complement (foldCase l) Text.unitLimit) x = true ↔
      x < Text.unitLimit ∧ covers (foldCase l) x = false := fun x =>
    Interval.covers_complement (normal_foldCase l)
  -- what is left out has no partner that is left in
  have hback : Closed (Interval.complement (foldCase l) Text.unitLimit) ↔
      ∀ u v, u < Text.unitLimit → v ∈ casePartners u → covers (foldCase l) v = true →
        covers (foldCase l) u = true := by
    simp only [Closed, hcovers]
    constructor
    · intro h u v hu hv hcv
      by_contra hcu
      exact absurd hcv (Bool.eq_false_iff.1 (h u v ⟨hu, Bool.eq_false_iff.2 hcu⟩ hv).2)
    · rintro h u v ⟨hu, hcu⟩ hv
      refine ⟨(mem_casePartners.1 hv).2, Bool.eq_false_iff.2 fun hcv => ?_⟩
      exact absurd (h u v hu hv hcv) (Bool.eq_false_iff.1 hcu)
  rw [hback]
  constructor
  · intro h
    constructor
    · intro d hd hu
      obtain ⟨p, hp, hfirst, -, hundone⟩ := Unicode.Case.exists_between hd
      have hpartner := covers_foldCase_of_partner hu (mem_casePartners.2 ⟨hfirst, hp⟩)
      exact h d.2 p (Unicode.Case.lt_of_distant hd) (mem_casePartners.2 ⟨hundone, hp⟩) hpartner
    · rintro ⟨u, v, hu, hv, -, hcv, hcu⟩
      exact absurd (h u v hu hv hcv) (Bool.eq_false_iff.1 hcu)
  · rintro ⟨hsettled, hleaks⟩ u v hu hv hcv
    by_cases hundone : u ∈ casePartners v
    · exact closed_foldCase_iff.2 hsettled v u hcv hundone
    · by_contra hcu
      exact hleaks ⟨u, v, hu, hv, hundone, hcv, Bool.eq_false_iff.2 hcu⟩

/-! ## ASCII letters -/

/-- Some unit outside of ASCII is listed that has the unit as its partner. -/
def Strays (l : List Interval) (x : Nat) : Prop := ∃ u, (u, x) ∈ asciiCases ∧ covers l u = true

/-- A folded class has a case of a letter if either case is listed or a stray partner of it is. -/
theorem covers_foldCase_letter {n : Nat} (hlo : 0x61 ≤ n) (hhi : n ≤ 0x7A) (hx : x = n ∨ x = n - 0x20) :
    covers (foldCase l) x = true ↔ (covers l n = true ∨ covers l (n - 0x20) = true) ∨ Strays l x := by
  have hsmall : x < 0x80 := by omega
  have hlimit : ∀ {m : Nat}, m < 0x80 → m < Text.unitLimit := fun hm => Nat.lt_trans hm (by decide)
  obtain ⟨hdown, hup⟩ := Unicode.Case.maps_letter hlo hhi
  rw [covers_foldCase]
  constructor
  · rintro (hl | ⟨u, hu, hux⟩)
    · rcases hx with rfl | rfl
      · exact .inl (.inl hl)
      · exact .inl (.inr hl)
    · rcases Unicode.Case.maps_ascii (mem_casePartners.1 hux).1 hsmall with ⟨hulo, huhi, rfl⟩ | ⟨hulo, huhi, rfl⟩ | hstray
      · obtain rfl : u = n - 0x20 := by omega
        exact .inl (.inr hu)
      · obtain rfl : x + 0x20 = n := by omega
        exact .inl (.inl hu)
      · exact .inr ⟨u, hstray, hu⟩
  · rintro ((hl | hl) | ⟨u, hstray, hu⟩)
    · rcases hx with rfl | rfl
      · exact .inl hl
      · exact .inr ⟨n, hl, mem_casePartners.2 ⟨hdown, hlimit hsmall⟩⟩
    · rcases hx with rfl | rfl
      · exact .inr ⟨_, hl, mem_casePartners.2 ⟨hup, hlimit hsmall⟩⟩
      · exact .inl hl
    · refine .inr ⟨u, hu, mem_casePartners.2 ⟨?_, hlimit hsmall⟩⟩
      have hall : ∀ d ∈ asciiCases, Maps d.1 d.2 := by decide +kernel
      exact hall _ hstray

/-- No letter has stray partners in both of its cases. -/
theorem not_strays_both {n : Nat} (h : Strays l n) (hlo : 0x61 ≤ n) : ¬ Strays l (n - 0x20) := by
  rintro ⟨v, hv, -⟩
  obtain ⟨u, hu, -⟩ := h
  simp only [asciiCases, List.mem_cons, Prod.mk.injEq, List.not_mem_nil, or_false] at hu hv
  omega

theorem covers_foldCase_ne_iff {n : Nat} (hlo : 0x61 ≤ n) (hhi : n ≤ 0x7A) :
    covers (foldCase l) n ≠ covers (foldCase l) (n - 0x20) ↔
      covers l n = false ∧ covers l (n - 0x20) = false ∧ (Strays l n ∨ Strays l (n - 0x20)) := by
  rw [Ne, Bool.eq_iff_iff, covers_foldCase_letter hlo hhi (.inl rfl), covers_foldCase_letter hlo hhi (.inr rfl),
    ← Bool.not_eq_true, ← Bool.not_eq_true]
  have hboth := fun h : Strays l n => not_strays_both h hlo
  tauto

/-! ## Classes of pattern texts -/

theorem foldCase_normalize (l : List Interval) : foldCase (Interval.normalize l) = foldCase l := by
  refine (normal_foldCase _).eq_of_covers (normal_foldCase l) fun x => ?_
  simp only [covers_foldCase, Interval.covers_normalize]

/-- Whether a class is negated, and what it lists. -/
def splitNegation : List Char → Bool × List Char
  | '^' :: cs => (true, cs)
  | cs => (false, cs)

theorem readClass_eq (options : ParseOptions) (cs : List Char) :
    readClass options cs = readClassBody options ('[' :: cs) (splitNegation cs).1 (splitNegation cs).2 := by
  unfold readClass
  split
  · rfl
  · rename_i hcs
    rw [splitNegation]
    exact hcs

theorem readClass_iff (options : ParseOptions) : readClass options cs = .ok (p, rest) ↔
    ∃ items, readClassItems ('[' :: cs) (splitNegation cs).2 = .ok (items, rest) ∧
      p = symbols (classRanges options (splitNegation cs).1 items) := by
  rw [readClass_eq, readClassBody]
  cases readClassItems ('[' :: cs) (splitNegation cs).2 with
  | error fault => simp
  | ok read => simp [Prod.ext_iff, and_comm, eq_comm]

theorem classRanges_ignoreCase (negated : Bool) (items : List Interval) :
    classRanges ⟨true⟩ negated items =
      if negated then Interval.complement (foldCase items) Text.unitLimit else foldCase items := by
  rw [classRanges, ← foldCase_normalize items]
  rfl

theorem closed_classRanges_iff :
    Closed (classRanges ⟨true⟩ negated items) ↔ Settled items ∧ (negated = true → ¬ Leaks items) := by
  rw [classRanges_ignoreCase]
  cases negated with
  | false => simp [closed_foldCase_iff]
  | true => simp [closed_complement_iff]

theorem covers_classRanges_ne_iff {n : Nat} (hlo : 0x61 ≤ n) (hhi : n ≤ 0x7A) (negated : Bool) :
    covers (classRanges ⟨true⟩ negated items) n ≠ covers (classRanges ⟨true⟩ negated items) (n - 0x20) ↔
      covers items n = false ∧ covers items (n - 0x20) = false ∧ (Strays items n ∨ Strays items (n - 0x20)) := by
  rw [classRanges_ignoreCase, ← covers_foldCase_ne_iff hlo hhi]
  cases negated with
  | false => exact Iff.rfl
  | true =>
    have hcovers : ∀ x < Text.unitLimit,
        covers (Interval.complement (foldCase items) Text.unitLimit) x = !covers (foldCase items) x := by
      intro x hx
      rw [Bool.eq_iff_iff, Interval.covers_complement (normal_foldCase items), and_iff_right hx, Bool.not_eq_true']
    have hlimit : n < Text.unitLimit := Nat.lt_of_le_of_lt hhi (by decide)
    rw [if_pos rfl, hcovers n hlimit, hcovers (n - 0x20) (by omega), Ne, Ne, Bool.not_inj_iff]

/-- A folded class has what is listed and the partners of it, and folding it again changes nothing just if no
letter is listed from which two mappings lead out of it. A class of a text that ignores case has the partners of all
its units in just these cases, a negated one only if no partner of a unit outside of the folded class is in it. Such
a class has one case of an ASCII letter and not the other just if it lists neither case but a stray partner. -/
theorem foldCase_partners :
    (∀ l, (∀ x, covers (foldCase l) x = true ↔ covers l x = true ∨ ∃ u, covers l u = true ∧ x ∈ casePartners u) ∧
      (foldCase (foldCase l) = foldCase l ↔ Settled l)) ∧
    (∀ u, ofUnit ⟨true⟩ u = symbols (foldCase [.single u])) ∧
    (∀ cs p rest, readClass ⟨true⟩ cs = .ok (p, rest) ↔
      ∃ items, readClassItems ('[' :: cs) (splitNegation cs).2 = .ok (items, rest) ∧
        p = symbols (classRanges ⟨true⟩ (splitNegation cs).1 items)) ∧
    ∀ items negated, (Closed (classRanges ⟨true⟩ negated items) ↔ Settled items ∧ (negated = true → ¬ Leaks items)) ∧
      ∀ n, 0x61 ≤ n → n ≤ 0x7A →
        (covers (classRanges ⟨true⟩ negated items) n ≠ covers (classRanges ⟨true⟩ negated items) (n - 0x20) ↔
          covers items n = false ∧ covers items (n - 0x20) = false ∧ (Strays items n ∨ Strays items (n - 0x20))) :=
  ⟨fun _ => ⟨fun _ => covers_foldCase, foldCase_foldCase_iff⟩, fun _ => rfl, fun _ _ _ => readClass_iff ⟨true⟩,
    fun _ negated => ⟨closed_classRanges_iff, fun _ hlo hhi => covers_classRanges_ne_iff hlo hhi negated⟩⟩

theorem foldCase_partners_kelvinSign :
    0x61 ≤ 0x6B ∧ 0x6B ≤ 0x7A ∧
      covers (classRanges ⟨true⟩ true [.single 0x212A]) 0x6B ≠ covers (classRanges ⟨true⟩ true [.single 0x212A]) 0x4B :=
  ⟨by decide, by decide, ((foldCase_partners.2.2.2 [.single 0x212A] true).2 0x6B (by decide) (by decide)).2
    ⟨rfl, rfl, .inl ⟨0x212A, by decide, rfl⟩⟩⟩

theorem not_closed_kelvinSign :
    readClass ⟨true⟩ ['\u212a', ']'] = .ok (symbols [⟨0x6B, 0x6C⟩, ⟨0x212A, 0x212B⟩], []) ∧
      casePartners 0x6B = [0x4B] ∧ covers [⟨0x6B, 0x6C⟩, ⟨0x212A, 0x212B⟩] 0x4B = false ∧
      foldCase (foldCase [.single 0x212A]) ≠ foldCase [.single 0x212A] := by
  have hfold : foldCase [.single 0x212A] = [⟨0x6B, 0x6C⟩, ⟨0x212A, 0x212B⟩] := by
    have hpartners : casePartners 0x212A = [0x6B] := by decide +kernel
    simp [foldCase, hpartners, Interval.normalize, Interval.single, List.mergeSort, Interval.join, Interval.absorb]
  have hread : readClass ⟨true⟩ ['\u212a', ']'] = .ok (symbols [⟨0x6B, 0x6C⟩, ⟨0x212A, 0x212B⟩], []) := by
    refine (readClass_iff ⟨true⟩).2 ⟨[.single 0x212A], by decide +kernel, congrArg symbols ?_⟩
    rw [classRanges_ignoreCase, hfold]
    rfl
  have hmissing : covers (foldCase [.single 0x212A]) 0x4B = false := by rw [hfold]; rfl
  refine ⟨hread, by decide +kernel, rfl, fun h => ?_⟩
  have hsettled := foldCase_foldCase_iff.1 h (0x212A, 0x4B) (by decide) rfl
  exact absurd hsettled (Bool.eq_false_iff.1 hmissing)

end Polymatch.Pattern
