import Polymatch.Conventional.Pattern
import Polymatch.Proofs.Interval.Normalize
import Polymatch.Proofs.Pattern.Recognition

/-! # Languages of conventional expressions

What an expression stands for is said over code units: a literal is the units of its
text, a class of scalar values one unit. The pattern of an expression has the same
language, its loops are plain, and its groups are numbered along their path, so that
no two of them share a label. Which members of a class of scalar values count is left
open where it does not matter, because the intervals of a class may run across the
surrogates, which are units but no scalar values.
-/

namespace Polymatch

open Computability

namespace Text

theorem byteArray_toList_loop (b : ByteArray) (i : Nat) (read : List UInt8) :
    ByteArray.toList.loop b i read = read.reverse ++ b.data.toList.drop i := by
  fun_induction ByteArray.toList.loop b i read with
  | case1 i read h ih =>
    have hi : i < b.data.toList.length := by simpa using h
    rw [ih, List.drop_eq_getElem_cons hi, List.reverse_cons, List.append_assoc, List.singleton_append]
    congr 2
    rw [ByteArray.get!, getElem!_pos b.data i h, Array.getElem_toList]
  | case2 i read h =>
    rw [List.drop_eq_nil_of_le (Nat.le_of_not_lt h), List.append_nil]

theorem bytes_eq (text : String) : bytes text = text.toByteArray.data.toList.map UInt8.toNat := by
  rw [bytes, String.toUTF8, ByteArray.toList, byteArray_toList_loop, List.reverse_nil, List.nil_append,
    List.drop_zero]

theorem map_toNat_ofNat {l : List Nat} (hl : ∀ b ∈ l, b < 256) :
    (l.map UInt8.ofNat).map UInt8.toNat = l := by
  rw [List.map_map]
  refine (List.map_congr_left fun b hb => ?_).trans (List.map_id l)
  exact UInt8.toNat_ofNat_of_lt' (hl b hb)

/-- A run of bytes is read as the text whose bytes they are. -/
theorem ofBytes?_eq_some_iff {l : List Nat} (hl : ∀ b ∈ l, b < 256) {text : String} :
    ofBytes? l = some text ↔ bytes text = l := by
  rw [ofBytes?, String.fromUTF8?, Option.dite_none_right_eq_some, bytes_eq]
  constructor
  · rintro ⟨hvalid, htext⟩
    rw [← Option.some.inj htext]
    exact map_toNat_ofNat hl
  · intro h
    have hbytes : text.toByteArray = ⟨(l.map UInt8.ofNat).toArray⟩ := by
      refine ByteArray.ext (Array.ext' (List.map_injective_iff.2 (fun _ _ => UInt8.toNat_inj.1) ?_))
      rw [h, map_toNat_ofNat hl]
    refine ⟨hbytes ▸ text.isValidUTF8, ?_⟩
    rw [Option.some_inj, ← String.toByteArray_inj]
    exact hbytes.symm

end Text

namespace Pattern

theorem lang_inOrder (items : List Pattern) : (inOrder items).lang = langInOrder items := by
  rw [inOrder.eq_def]
  split
  · rw [langInOrder, langInOrder, mul_one]
  · rfl

theorem lang_oneOf (branches : List Pattern) : (oneOf branches).lang = langOfAny branches := by
  rw [oneOf.eq_def]
  split
  · rw [langOfAny, langOfAny, add_zero]
  · rfl

theorem standard_inOrder {items : List Pattern} (h : AllStandard items) : (inOrder items).Standard := by
  rw [inOrder.eq_def]
  split
  · exact h.1
  · exact h

theorem standard_oneOf {branches : List Pattern} (h : AllStandard branches) : (oneOf branches).Standard := by
  rw [oneOf.eq_def]
  split
  · exact h.1
  · exact h

theorem labels_inOrder (items : List Pattern) : (inOrder items).labels = allLabels items := by
  rw [inOrder.eq_def]
  split
  · exact (List.append_nil _).symm
  · rfl

theorem labels_oneOf (branches : List Pattern) : (oneOf branches).labels = allLabels branches := by
  rw [oneOf.eq_def]
  split
  · exact (List.append_nil _).symm
  · rfl

theorem lang_symbol (x : Nat) : (symbol x).lang = ({[x]} : Language Nat) := by
  ext w
  have hx : ∀ y, Interval.covers [.single x] y = true ↔ y = x := by
    intro y
    simp only [Interval.covers_cons, Interval.covers_nil, Interval.single, Bool.false_eq_true, or_false]
    omega
  simp only [symbol, lang, hx]
  exact exists_eq_left

/-- Symbols in order stand for the input that they spell. -/
theorem langInOrder_symbols (l : List Nat) : langInOrder (l.map symbol) = ({l} : Language Nat) := by
  induction l with
  | nil => rfl
  | cons x l ih =>
    rw [List.map_cons, langInOrder, ih, lang_symbol]
    exact Set.image2_singleton

theorem allStandard_symbols (l : List Nat) : AllStandard (l.map symbol) := by
  induction l with
  | nil => trivial
  | cons x l ih => exact ⟨List.pairwise_singleton .., ih⟩

theorem allLabels_symbols (l : List Nat) : allLabels (l.map symbol) = [] := by
  induction l with
  | nil => rfl
  | cons x l ih => exact ih

theorem lang_times (body : Pattern) {counts : List Nat} (h : counts ≠ []) :
    (body.times counts).lang = ({w | ∃ n ∈ counts, w ∈ body.lang ^ n} : Language Nat) := by
  ext w
  rw [times, lang]
  exact exists_congr fun n => and_congr_left fun _ => mem_normalCounts h

end Pattern

namespace Conventional

/-- Distinct labels below `path`, from that group there on whose number is `first` and in front of
the one whose number is `next`. -/
structure Numbered (path : Label) (first next : Nat) (labels : List Label) : Prop where
  le : first ≤ next
  nodup : labels.Nodup
  inside : ∀ label ∈ labels, ∃ k, first ≤ k ∧ k < next ∧ path ++ [k] <+: label

namespace Numbered

variable {path : Label} {first next last : Nat} {labels others : List Label}

theorem nil (path : Label) (first : Nat) : Numbered path first first [] :=
  ⟨Nat.le_refl first, .nil, List.forall_mem_nil _⟩

theorem append (h : Numbered path first next labels) (h' : Numbered path next last others) :
    Numbered path first last (labels ++ others) where
  le := Nat.le_trans h.le h'.le
  nodup := by
    refine List.nodup_append.2 ⟨h.nodup, h'.nodup, ?_⟩
    rintro label hl _ hl' rfl
    obtain ⟨k, -, hk, hpre⟩ := h.inside label hl
    obtain ⟨k', hk', -, hpre'⟩ := h'.inside label hl'
    have hlen : (path ++ [k]).length = (path ++ [k']).length := by simp
    have heq := List.append_cancel_left (List.prefix_of_prefix_length_le hpre hpre' hlen.le |>.eq_of_length hlen)
    rw [List.singleton_inj] at heq
    omega
  inside label hl := by
    rcases List.mem_append.1 hl with hl | hl
    · obtain ⟨k, hk, hlt, hpre⟩ := h.inside label hl
      exact ⟨k, hk, Nat.lt_of_lt_of_le hlt h'.le, hpre⟩
    · obtain ⟨k, hk, hlt, hpre⟩ := h'.inside label hl
      exact ⟨k, Nat.le_trans h.le hk, hlt, hpre⟩

theorem group (h : Numbered (path ++ [first]) 0 next labels) :
    Numbered path first (first + 1) ((path ++ [first]) :: labels) where
  le := Nat.le_succ first
  nodup := by
    refine List.nodup_cons.2 ⟨fun hl => ?_, h.nodup⟩
    obtain ⟨k, -, -, hpre⟩ := h.inside _ hl
    have := hpre.length_le
    simp at this
  inside label hl := by
    refine ⟨first, Nat.le_refl first, Nat.lt_succ_self first, ?_⟩
    rcases List.mem_cons.1 hl with rfl | hl
    · exact List.prefix_rfl
    · obtain ⟨k, -, -, hpre⟩ := h.inside label hl
      exact (List.prefix_append _ _).trans hpre

end Numbered

namespace Expr

mutual

/-- The inputs that an expression stands for, where the members of classes of scalar values that
count are the admitted ones. A literal is a text, or else its bytes. -/
def lang (admitted : Nat → Prop) : Expr → Language Nat
  | empty => 1
  | literal bytes =>
    {w | (∃ text, Text.bytes text = bytes ∧ w = Text.units text) ∨
      (∀ text, Text.bytes text ≠ bytes) ∧ w = bytes}
  | scalarClass ranges => {w | ∃ x, Interval.covers ranges x = true ∧ admitted x ∧ w = [x]}
  | byteClass ranges => {w | ∃ x, Interval.covers ranges x = true ∧ w = [x]}
  | look _ => 0
  | repetition min max? _ sub => {w | ∃ n ≥ min, (∀ max ∈ max?, n ≤ max) ∧ w ∈ lang admitted sub ^ n}
  | capture _ sub => lang admitted sub
  | concat subs => langInOrder admitted subs
  | alternation subs => langOfAny admitted subs

def langInOrder (admitted : Nat → Prop) : List Expr → Language Nat
  | [] => 1
  | e :: rest => lang admitted e * langInOrder admitted rest

def langOfAny (admitted : Nat → Prop) : List Expr → Language Nat
  | [] => 0
  | e :: rest => lang admitted e + langOfAny admitted rest

end

mutual

/-- Some part has no counterpart: an assertion, a repetition with too great a bound, or a class of
scalar values beyond the basic plane only. -/
def Unsupported : Expr → Prop
  | look _ => True
  | repetition _ max? _ sub => Unsupported sub ∨ ∃ max ∈ max?, Pattern.maxRepeat < max
  | scalarClass ranges =>
    ranges ≠ [] ∧ ∀ x, Interval.covers ranges x = true → x.isValidChar → Text.unitLimit ≤ x
  | capture _ sub => Unsupported sub
  | concat subs => AnyUnsupported subs
  | alternation subs => AnyUnsupported subs
  | _ => False

def AnyUnsupported : List Expr → Prop
  | [] => False
  | e :: rest => Unsupported e ∨ AnyUnsupported rest

end

mutual

/-- Literals consist of bytes, classes of scalar values of intervals that start with one of them, and the
bounds of repetitions ascend. -/
def Valid : Expr → Prop
  | literal bytes => ∀ b ∈ bytes, b < 256
  | scalarClass ranges => ∀ i ∈ ranges, i.lo < i.hi ∧ i.lo.isValidChar
  | repetition min max? _ sub => Valid sub ∧ ∀ max ∈ max?, min ≤ max
  | capture _ sub => Valid sub
  | concat subs => AllValid subs
  | alternation subs => AllValid subs
  | _ => True

def AllValid : List Expr → Prop
  | [] => True
  | e :: rest => Valid e ∧ AllValid rest

end

end Expr

end Conventional

end Polymatch
