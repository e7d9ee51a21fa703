import Polymatch.Proofs.Arena.Attach
import Polymatch.Proofs.Arena.Leaves

/-! # Accepting before anything is consumed

A node accepts at once if one of its leaves does. An open marker may do so later, when its loop is
closed, so what a node does at once is told by its exits: the accepting leaves and the open markers.
-/

namespace Polymatch.Arena

open Relation (TransGen ReflTransGen)

variable {g g' g'' h : Arena} {i j k l m tail : Nat} {p q : Prop}

/-- The node is an open marker, or built outright and accepting. -/
def Final (g : Arena) (l : Nat) : Prop :=
  g.recipe l = .marker none ∨ g.recipe l = .built ∧ ∃ n, g.content? l = some n ∧ n.isAccepting = true

def Exits (g : Arena) (i l : Nat) : Prop := g.Leaf i l ∧ g.Final l

/-- The node leads to a node built outright that accepts, past marks, preferences and closed markers. -/
def Accepts (g : Arena) (i : Nat) : Prop :=
  ∃ l n, g.Leaf i l ∧ g.recipe l = .built ∧ g.content? l = some n ∧ n.isAccepting = true

section Exits

theorem Leaf.lt (hg : g.Tidy) (hl : g.Leaf i l) (hi : i < g.size) : l < g.size := by
  obtain ⟨marks, hp⟩ := hl
  rcases ReflTransGen.cases_tail hp.derives with rfl | ⟨j, -, hop⟩
  · exact hi
  · exact hg.operand_lt j l hop

theorem accepts_iff : g.Accepts i ↔ ∃ l, g.Exits i l ∧ g.recipe l = .built := by
  constructor
  · rintro ⟨l, n, hl, hb, hn⟩
    exact ⟨l, ⟨hl, .inr ⟨hb, n, hn⟩⟩, hb⟩
  · rintro ⟨l, ⟨hl, ho | ⟨-, n, hn⟩⟩, hb⟩
    · cases hb.symm.trans ho
    · exact ⟨l, n, hl, hb, hn⟩

theorem exits_self (hl : g.IsLeaf i) : g.Exits i l ↔ l = i ∧ g.Final i := by
  rw [Exits, leaf_self hl]
  exact ⟨fun ⟨heq, hf⟩ => ⟨heq, heq ▸ hf⟩, fun ⟨heq, hf⟩ => ⟨heq, heq ▸ hf⟩⟩

/-- What is built outright ends in the same way ever after. -/
theorem Settles.final_iff (hs : Settles g h) (hg : g.Tidy) (hl : l < g.size) (hne : g.recipe l ≠ .marker none) :
    h.Final l ↔ g.Final l := by
  have hr := hs.recipe_eq l hl hne
  rw [Final, Final, hr]
  refine or_congr_right (and_congr_right fun hb => ?_)
  rw [hs.content_eq l hb (hg.built l hl hb)]

theorem Grows.final_iff (hs : Grows g g') (hg : g.Tidy) (hl : l < g.size) : g'.Final l ↔ g.Final l := by
  have hr := hs.recipe_eq l hl
  rw [Final, Final, hr]
  refine or_congr_right (and_congr_right fun hb => ?_)
  rw [hs.content_eq l hb (hg.built l hl hb)]

theorem Grows.exits_iff (hs : Grows g g') (hg : g.Tidy) (hi : i < g.size) : g'.Exits i l ↔ g.Exits i l := by
  have hleaf : g'.Leaf i l ↔ g.Leaf i l := hg.reaches_iff hs.recipe_eq hi
  rw [Exits, Exits, hleaf]
  exact and_congr_right fun hl => hs.final_iff hg (Leaf.lt hg hl hi)

theorem Settles.recipe_nothing (hs : Settles g h) (hg : g.Tidy) : h.recipe nothing = .built :=
  (hs.recipe_eq nothing hg.nothing_lt (by simp [hg.recipe_nothing])).trans hg.recipe_nothing

/-- A leaf that is not open stays one. -/
theorem Settles.isLeaf (hs : Settles g h) (hi : i < g.size) (hl : g.IsLeaf i) (hne : g.recipe i ≠ .marker none) :
    h.IsLeaf i := by
  obtain ⟨hb, hn⟩ := hl.resolve_right hne
  exact .inl ⟨(hs.recipe_eq i hi hne).trans hb, hn⟩

/-- Once some loops are closed, a node leads where its leaves lead. -/
theorem Settles.leaf_iff (hs : Settles g h) (hg : g.Tidy) (hh : h.Founded) (hi : i < g.size) :
    h.Leaf i l ↔ ∃ k, g.Leaf i k ∧ h.Leaf k l := by
  induction i using hh.induct with
  | step i ih =>
    by_cases hleaf : g.IsLeaf i
    · simp only [leaf_self hleaf, exists_eq_left]
    have hm : g.recipe i ≠ .marker none := fun hr => hleaf (.inr hr)
    have hr := hs.recipe_eq i hi hm
    by_cases hb : g.recipe i = .built
    · obtain rfl : i = nothing := by_contra fun hn => hleaf (.inl ⟨hb, hn⟩)
      have hnot : ¬ h.Leaf nothing l := fun hl => by
        obtain ⟨marks, hp⟩ := hl
        exact ((path_built (hs.recipe_nothing hg)).1 hp).2.1 rfl
      exact iff_of_false hnot fun ⟨k, hk, _⟩ => hg.not_leaf_nothing hk
    · have hop : ∀ j, h.Operand i j ↔ g.Operand i j := fun j => by rw [Operand, hr, Operand]
      rw [leaf_derived (hr.trans_ne hb) (hr.trans_ne hm)]
      simp only [hop, leaf_derived hb hm]
      constructor
      · rintro ⟨j, hj, hl⟩
        obtain ⟨k, hk, hl⟩ := (ih j ((hop j).2 hj) (hg.operand_lt i j hj)).1 hl
        exact ⟨k, ⟨j, hj, hk⟩, hl⟩
      · rintro ⟨k, ⟨j, hj, hk⟩, hl⟩
        exact ⟨j, hj, (ih j ((hop j).2 hj) (hg.operand_lt i j hj)).2 ⟨k, hk, hl⟩⟩

theorem Settles.exits_iff (hs : Settles g h) (hg : g.Tidy) (hh : h.Founded) (hi : i < g.size) :
    h.Exits i l ↔ ∃ k, g.Exits i k ∧ h.Exits k l := by
  simp only [Exits, hs.leaf_iff hg hh hi]
  constructor
  · rintro ⟨⟨k, hk, hl⟩, hf⟩
    refine ⟨k, ⟨hk, ?_⟩, hl, hf⟩
    by_cases hm : g.recipe k = .marker none
    · exact .inl hm
    · have hlt := Leaf.lt hg hk hi
      obtain rfl := (leaf_self (hs.isLeaf hlt (Reaches.isLeaf hk) hm)).1 hl
      exact (hs.final_iff hg hlt hm).1 hf
  · rintro ⟨k, ⟨hk, -⟩, hl, hf⟩
    exact ⟨⟨k, hk, hl⟩, hf⟩

/-- Whether a node accepts later on is up to its exits. -/
theorem Settles.accepts_iff (hs : Settles g h) (hg : g.Tidy) (hh : h.Founded) (hi : i < g.size) :
    h.Accepts i ↔ ∃ k, g.Exits i k ∧ h.Accepts k := by
  simp only [Arena.accepts_iff, hs.exits_iff hg hh hi]
  constructor
  · rintro ⟨l, ⟨k, hk, hl⟩, hb⟩
    exact ⟨k, hk, l, hl, hb⟩
  · rintro ⟨k, hk, l, hl, hb⟩
    exact ⟨l, ⟨k, hk, hl⟩, hb⟩

theorem Leading.exits_iff {result : Nat × Arena} {leaves : Nat → Prop} (hl : Leading g result leaves) (hg : g.Tidy)
    (hlt : ∀ l, leaves l → l < g.size) : result.2.Exits result.1 l ↔ leaves l ∧ g.Final l := by
  rw [Exits, hl.leaf_iff]
  exact and_congr_right fun h => hl.grows.final_iff hg (hlt l h)

end Exits

/-! ## Attaching -/

/-- Something has been built onto the arena `g`: it is tidy, no node derives from itself, nothing new is known of
nodes that derive from others, and edges still lead to nodes. -/
structure Develops (g g' : Arena) : Prop where
  tidy : g'.Tidy
  founded : g'.Founded
  grows : Grows g g'
  discloses : ∀ i n, g'.content? i = some n → g'.recipe i = .built ∨ g.content? i = some n
  targeted : g.Targeted → g'.Targeted

/-- A node has been attached in front of `tail`; it has the exits of the tail if `p` holds, and none otherwise. -/
structure Attached (g : Arena) (tail : Nat) (p : Prop) (result : Nat × Arena) : Prop extends
    Develops g result.2 where
  lt : result.1 < result.2.size
  exits_iff : ∀ l, result.2.Exits result.1 l ↔ p ∧ g.Exits tail l

/-- In front of every tail, the operation attaches a node that has the exits of the tail if `p` holds. -/
structure Passing (p : Prop) (op : Nat → Arena → Nat × Arena) : Prop where
  attached : ∀ {g tail}, g.Tidy → g.Founded → tail < g.size → Attached g tail p (op tail g)

theorem Develops.refl (hg : g.Tidy) (hf : g.Founded) : Develops g g := ⟨hg, hf, .refl g, fun _ _ => .inr, id⟩

theorem Develops.trans (h : Develops g g') (h' : Develops g' g'') : Develops g g'' where
  tidy := h'.tidy
  founded := h'.founded
  grows := h.grows.trans h'.grows
  discloses i n hn := by
    refine (h'.discloses i n hn).elim .inl fun hn' => (h.discloses i n hn').imp_left fun hr => ?_
    rw [h'.grows.recipe_eq i (lt_size_of_content? (by simp [hn'])), hr]
  targeted := h'.targeted ∘ h.targeted

theorem Enlarges.develops (h : Enlarges g g') : Develops g g' :=
  ⟨h.tidy, h.founded, h.grows, fun i n hn => .inr (h.discloses i n hn), fun ht => ht.of_discloses h.grows h.discloses⟩

theorem develops_push (hf : g.Founded) {s : Slot} (hg : (g.push s).2.Tidy) (hs : ∀ j, s.recipe.Names j → j < g.size)
    (hn : ∀ n, s.node? = some n → s.recipe = .built ∧ n.Below g.size) : Develops g (g.push s).2 := by
  refine ⟨hg, hf.push hs, grows_push .., fun i n hi => ?_, fun ht i n hi => ?_⟩
  · rcases push_cases g s (lt_size_of_content? (i := i) (by simp [hi])) with ⟨-, -, hc⟩ | ⟨-, hr, hc⟩
    · exact .inr (hc.symm.trans hi)
    · exact .inl (hr.trans (hn n (hc.symm.trans hi)).1)
  · refine Node.Below.mono ?_ (grows_push g s).size_le
    rcases push_cases g s (lt_size_of_content? (i := i) (by simp [hi])) with ⟨-, -, hc⟩ | ⟨-, -, hc⟩
    · exact ht i n (hc.symm.trans hi)
    · exact (hn n (hc.symm.trans hi)).2

theorem develops_marker (hg : g.Tidy) (hf : g.Founded) : Develops g g.marker.2 :=
  develops_push hf hg.marker (fun _ h => nomatch h) fun _ h => nomatch h

/-- Closing a loop whose marker was not there at first. -/
theorem Develops.close (h : Develops g g') {entry : Nat} (bodies : List (Nat × Nat)) (hm : g'.recipe m = .marker none)
    (hge : g.size ≤ m) (hentry : entry < g'.size) (hnot : ¬ ReflTransGen g'.Operand entry m) :
    Develops g { g'.setEntry m entry with bodies } := by
  have htidy : ({ g'.setEntry m entry with bodies } : Arena).Tidy := (h.tidy.setEntry hm hentry).of_slots rfl
  have hcontent : ∀ i, ({ g'.setEntry m entry with bodies } : Arena).content? i = g'.content? i := fun i =>
    content?_setEntry ..
  refine ⟨htidy, htidy.founded (acyclic_setEntry hm h.founded.acyclic hnot), ⟨?_, fun i hi => ?_, fun i hb hc => ?_⟩,
    fun i n hn => ?_, fun ht i n hn => ?_⟩
  · exact Nat.le_trans h.grows.size_le (Nat.le_of_eq (size_setEntry ..).symm)
  · exact (recipe_setEntry_of_ne _ _ _ (Nat.ne_of_lt (Nat.lt_of_lt_of_le hi hge))).trans (h.grows.recipe_eq i hi)
  · exact (hcontent i).trans (h.grows.content_eq i hb hc)
  · refine (h.discloses i n ((hcontent i).symm.trans hn)).imp_left fun hb => ?_
    refine (recipe_setEntry_of_ne _ _ _ ?_).trans hb
    rintro rfl
    cases hm.symm.trans hb
  · exact (h.targeted ht i n ((hcontent i).symm.trans hn)).mono (Nat.le_of_eq (size_setEntry ..).symm)

namespace Attached

variable {result : Nat × Arena} {leaves : Nat → Prop}

theorem self (hg : g.Tidy) (hf : g.Founded) (ht : tail < g.size) : Attached g tail True (tail, g) :=
  ⟨.refl hg hf, ht, fun _ => (and_iff_right trivial).symm⟩

theorem congr (h : Attached g tail p result) (hpq : p ↔ q) : Attached g tail q result :=
  ⟨h.toDevelops, h.lt, fun l => (h.exits_iff l).trans (and_congr_left' hpq)⟩

/-- What is attached in front of a node attached in turn. -/
theorem next {op : Nat → Arena → Nat × Arena} (h : Attached g tail p result) (hop : Passing q op) :
    Attached g tail (q ∧ p) (op result.1 result.2) := by
  have hnext := hop.attached h.tidy h.founded h.lt
  refine ⟨h.toDevelops.trans hnext.toDevelops, hnext.lt, fun l => ?_⟩
  rw [hnext.exits_iff, h.exits_iff, and_assoc]

theorem exits_tail (h : Attached g tail p result) (hg : g.Tidy) (ht : tail < g.size) :
    result.2.Exits tail l ↔ g.Exits tail l :=
  h.grows.exits_iff hg ht

/-- An operation on nodes of the arena that has been reached. -/
theorem lead (hd : Develops g g') (hl : Leading g' result leaves) (hlt : ∀ l, leaves l → l < g'.size)
    (hp : ∀ l, leaves l ∧ g'.Final l ↔ p ∧ g.Exits tail l) : Attached g tail p result :=
  ⟨hd.trans hl.toEnlarges.develops, hl.lt, fun l => (hl.exits_iff hd.tidy hlt).trans (hp l)⟩

theorem union (h : Attached g tail p result) (hg : g.Tidy) (ht : tail < g.size) :
    Attached g tail True (result.2.union result.1 tail) := by
  have ht' := Nat.lt_of_lt_of_le ht h.grows.size_le
  have hunion := leading_union h.tidy h.founded h.lt ht'
  refine .lead h.toDevelops hunion (fun l hl => hl.elim (Leaf.lt h.tidy · h.lt) (Leaf.lt h.tidy · ht')) fun l => ?_
  have hexits := h.exits_iff l
  have htail := h.exits_tail (l := l) hg ht
  rw [or_and_right, ← Exits, ← Exits, hexits, htail, and_iff_right trivial]
  exact or_iff_right_of_imp And.right

/-- Whatever the arena becomes, the node accepts if `p` holds and the tail accepts. -/
theorem accepts_iff (ha : Attached g tail p result) (hg : g.Tidy) (ht : tail < g.size) (hs : Settles result.2 h)
    (hh : h.Founded) : h.Accepts result.1 ↔ p ∧ h.Accepts tail := by
  rw [hs.accepts_iff ha.tidy hh ha.lt, (ha.grows.trans_settles hs).accepts_iff hg hh ht]
  simp only [ha.exits_iff, and_assoc, exists_and_left]

theorem annotate (h : Attached g tail p result) (marks : Marks) :
    Attached g tail p (result.2.annotate result.1 marks) :=
  .lead h.toDevelops (leading_annotate h.tidy h.founded h.lt marks) (fun _ hl => Leaf.lt h.tidy hl h.lt) h.exits_iff

end Attached

section Operations

variable {op : Nat → Arena → Nat × Arena} {mayEnd : Nat → Bool} {policy : LoopPolicy} {once : Nat}

/-- A new node that does not accept has no exits. -/
theorem attached_add (hg : g.Tidy) (hf : g.Founded) {n : Node} (hn : n.Below g.size) (hdead : n.isAccepting = false) :
    Attached g tail False (g.add n) := by
  have hr := recipe_push_self g { recipe := .built, node? := some n }
  have hc := content?_push_self g { recipe := .built, node? := some n }
  refine ⟨develops_push hf (hg.add n) (fun _ h => h.elim) fun x hx => ?_, ?_, fun l => iff_of_false ?_ fun h => h.1⟩
  · obtain rfl := Option.some.inj hx
    exact ⟨rfl, hn⟩
  · rw [Arena.add, size_push]
    exact Nat.lt_succ_self _
  · rintro ⟨hl, hfinal⟩
    obtain rfl := (leaf_self (.inl ⟨hr, Nat.ne_of_gt hg.nothing_lt⟩)).1 hl
    rcases hfinal with ho | ⟨-, x, hx, hacc⟩
    · cases hr.symm.trans ho
    · obtain rfl := Option.some.inj (hc.symm.trans hx)
      cases hdead.symm.trans hacc

theorem passing_edge (σ : Alphabet) (ranges : List Interval) (marks : Marks) :
    Passing False fun tail g => g.edge σ ranges tail marks := by
  refine ⟨fun {g tail} hg hf ht => ?_⟩
  simp only [edge]
  split
  · exact ⟨.refl hg hf, hg.nothing_lt, fun l => iff_of_false (fun h => hg.not_leaf_nothing h.1) fun h => h.1⟩
  · refine attached_add hg hf (below_ofDisjoint fun e he => ?_) rfl
    obtain ⟨r, -, rfl⟩ := List.mem_map.1 he
    exact ht

/-- Copies pass to the tail if the body does, or if no copy at all is needed. -/
theorem passing_copies (hop : Passing p op) (mayEnd : Nat → Bool) (ks : List Nat) :
    Passing (p ∨ ∀ k ∈ ks.head?, mayEnd k = true) (attachCopies op mayEnd ks) := by
  induction ks with
  | nil => exact ⟨fun hg hf ht => (Attached.self hg hf ht).congr (by simp)⟩
  | cons k ks ih =>
    refine ⟨fun {g tail} hg hf ht => ?_⟩
    have hagain := (ih.attached hg hf ht).next hop
    simp only [attachCopies, List.foldr_cons] at hagain ⊢
    split
    · rename_i hk
      exact (hagain.union hg ht).congr (by simp [hk])
    · rename_i hk
      exact hagain.congr (by rw [and_iff_left_of_imp .inl]; simp [hk])

theorem leading_entryOf (policy : LoopPolicy) (hg : g.Tidy) (hf : g.Founded) (ho : once < g.size) (ht : tail < g.size) :
    Leading g (g.entryOf policy once tail) fun l => g.Leaf once l ∨ g.Leaf tail l := by
  cases policy with
  | plain => exact leading_union hg hf ho ht
  | extending => exact leading_prefer hg hf ho ht
  | limiting => exact (leading_prefer hg hf ht ho).congr fun _ => or_comm

/-- What is left of a loop body without the loop's marker, or the tail: it has the exits of the tail, and does not
derive from the marker. -/
theorem exits_round (hg : g.Tidy) (ht : tail < g.size) {r : Nat × Arena}
    (hr : Attached g.marker.2 g.marker.1 p r) (policy : LoopPolicy) :
    let round := (r.2.subtract r.1 g.size).2.entryOf policy (r.2.subtract r.1 g.size).1 tail
    Enlarges r.2 round.2 ∧ round.1 < round.2.size ∧ ¬ ReflTransGen round.2.Operand round.1 g.size ∧
      ∀ l, round.2.Exits round.1 l ↔ g.Exits tail l := by
  have hmarker : g.marker.2.IsLeaf g.size := .inr (recipe_marker g)
  have hopen : r.2.recipe g.size = .marker none := (hr.grows.recipe_eq _ (marker_lt g)).trans (recipe_marker g)
  have hmembers : r.2.members g.size = .singleton g.size := SortedSet.ext_mem fun j => by
    rw [mem_members_iff hr.tidy hr.founded, flattens_of_isLeaf hr.tidy (.inr hopen), SortedSet.mem_singleton]
  have honce := leading_subtract hr.tidy hr.founded hr.lt g.size
  rw [hmembers] at honce
  generalize r.2.subtract r.1 g.size = once at honce
  have hgrow : Grows g once.2 := ((grows_marker g).trans hr.grows).trans honce.grows
  have ht' := Nat.lt_of_lt_of_le ht hgrow.size_le
  have hround := leading_entryOf policy honce.tidy honce.founded honce.lt ht'
  -- neither side leads to the marker, and what is left of the body has no other exit
  have hleft : ∀ l, once.2.Leaf once.1 l → l ≠ g.size ∧ ¬ once.2.Final l := fun l hl => by
    obtain ⟨hl, hne⟩ := Spared.leaf ((honce.leaf_iff l).1 hl)
    have hne : l ≠ g.size := fun heq => hne (SortedSet.mem_singleton.2 heq)
    refine ⟨hne, fun hfinal => hne ?_⟩
    have hexits : r.2.Exits r.1 l := ⟨hl, (honce.grows.final_iff hr.tidy (Leaf.lt hr.tidy hl hr.lt)).1 hfinal⟩
    exact ((exits_self hmarker).1 ((hr.exits_iff l).1 hexits).2).1
  have htail : ∀ l, once.2.Leaf tail l → l ≠ g.size := fun l hl =>
    Nat.ne_of_lt (Leaf.lt hg ((hg.reaches_iff hgrow.recipe_eq ht).1 hl) ht)
  refine ⟨honce.toEnlarges.trans hround.toEnlarges, hround.lt, fun hreach => ?_, fun l => ?_⟩
  · have hopen' := ((honce.grows.trans hround.grows).recipe_eq g.size (lt_size_of_recipe (by simp [hopen]))).trans hopen
    rcases (hround.leaf_iff _).1 (reaches_of_operands (.inr hopen') hreach) with hl | hl
    · exact (hleft _ hl).1 rfl
    · exact htail _ hl rfl
  · rw [hround.exits_iff honce.tidy fun l hl => hl.elim (Leaf.lt honce.tidy · honce.lt) (Leaf.lt honce.tidy · ht'),
      or_and_right, or_iff_right fun h => (hleft l h.1).2 h.2]
    exact hgrow.exits_iff hg ht

/-- Closing a loop around a body that was attached in front of its marker. The entry has the exits of the tail, and so
has the body if it passes. -/
theorem attached_closeLoop (hg : g.Tidy) (hf : g.Founded) (ht : tail < g.size) {r : Nat × Arena}
    (hr : Attached g.marker.2 g.marker.1 p r) (policy : LoopPolicy) :
    Attached g tail True (r.2.closeLoop g.size r.1 tail policy) ∧
      Attached g tail p ((r.2.closeLoop g.size r.1 tail policy).2.unroll g.size,
        (r.2.closeLoop g.size r.1 tail policy).2) := by
  obtain ⟨henlarges, hlt, hnot, hexits⟩ := exits_round hg ht hr policy
  have hmlt : g.size < r.2.size := Nat.lt_of_lt_of_le (marker_lt g) hr.grows.size_le
  have hopen : r.2.recipe g.size = .marker none := (hr.grows.recipe_eq _ (marker_lt g)).trans (recipe_marker g)
  rw [closeLoop_eq]
  dsimp only at hlt hnot hexits ⊢
  generalize (r.2.subtract r.1 g.size).2.entryOf policy (r.2.subtract r.1 g.size).1 tail = round at *
  have hopen' : round.2.recipe g.size = .marker none := (henlarges.grows.recipe_eq _ hmlt).trans hopen
  have hdevelops := ((develops_marker hg hf).trans hr.toDevelops).trans henlarges.develops
  have hclosed := hdevelops.close ((g.size, r.1) :: round.2.bodies) hopen' (Nat.le_refl _) hlt hnot
  have hsettles : Settles round.2 { round.2.setEntry g.size round.1 with bodies := (g.size, r.1) :: round.2.bodies } :=
    (settles_setEntry _ _ _ hopen').trans (Grows.settles (grows_of_slots rfl))
  have hmarker : ({ round.2.setEntry g.size round.1 with bodies := (g.size, r.1) :: round.2.bodies } : Arena).recipe
      g.size = .marker (some round.1) :=
    recipe_setEntry_self round.2 g.size round.1 (Nat.lt_of_lt_of_le hmlt henlarges.grows.size_le)
  have hunroll : ({ round.2.setEntry g.size round.1 with bodies := (g.size, r.1) :: round.2.bodies } : Arena).unroll
      g.size = r.1 := by
    rw [unroll, lookup_cons_self, Option.getD_some]
  rw [hunroll]
  generalize ({ round.2.setEntry g.size round.1 with bodies := (g.size, r.1) :: round.2.bodies } : Arena) = k at *
  have hentry : ∀ l, k.Exits round.1 l ↔ g.Exits tail l := fun l => by
    rw [hsettles.exits_iff henlarges.tidy hclosed.founded hlt]
    simp only [hexits]
    rw [← hclosed.grows.settles.exits_iff hg hclosed.founded ht, hclosed.grows.exits_iff hg ht]
  refine ⟨⟨hclosed, Nat.lt_of_lt_of_le hlt hsettles.size_le, fun l => ?_⟩, ⟨hclosed, ?_, fun l => ?_⟩⟩
  · rw [hentry, and_iff_right trivial]
  · exact Nat.lt_of_lt_of_le hr.lt (henlarges.grows.trans_settles hsettles).size_le
  · have hbody : ∀ l, k.Exits g.size l ↔ k.Exits round.1 l := fun l => and_congr_left' (leaf_entry hmarker)
    rw [(henlarges.grows.trans_settles hsettles).exits_iff hr.tidy hclosed.founded hr.lt]
    constructor
    · rintro ⟨i, hi, hl⟩
      obtain ⟨hp, hi⟩ := (hr.exits_iff i).1 hi
      obtain ⟨rfl, -⟩ := (exits_self (.inr (recipe_marker g))).1 hi
      exact ⟨hp, (hentry l).1 ((hbody l).1 hl)⟩
    · rintro ⟨hp, hl⟩
      have hself : g.marker.2.Exits g.size g.size :=
        (exits_self (.inr (recipe_marker g))).2 ⟨rfl, .inl (recipe_marker g)⟩
      exact ⟨g.size, (hr.exits_iff _).2 ⟨hp, hself⟩, (hbody l).2 ((hentry l).2 hl)⟩

theorem passing_loop (hop : Passing p op) (min : Nat) : Passing (min = 0 ∨ p) (attachLoop op min policy) := by
  refine ⟨fun {g tail} hg hf ht => ?_⟩
  have hmarker := develops_marker hg hf
  have honce := hop.attached hmarker.tidy hmarker.founded (marker_lt g)
  obtain ⟨hentry, hunroll⟩ := attached_closeLoop hg hf ht honce policy
  simp only [attachLoop, attachEntry]
  split
  · rename_i hmin
    exact hentry.congr (by simp [hmin])
  · rename_i hmin
    have hcopies := hunroll.next (passing_copies hop (fun _ => false) (List.range (min - 1)))
    exact hcopies.congr (by rw [and_iff_right_of_imp .inl]; simp [hmin])

end Operations

/-! ## Working out what accepts -/

/-- What is known of nodes says rightly whether they accept. Closed markers are looked through. -/
def Faithful (g : Arena) : Prop :=
  ∀ i n, g.content? i = some n → (∀ e, g.recipe i ≠ .marker (some e)) → (n.isAccepting = true ↔ g.Accepts i)

section Accepts

theorem Grows.accepts_iff (hs : Grows g g') (hg : g.Tidy) (hi : i < g.size) : g'.Accepts i ↔ g.Accepts i := by
  simp only [Arena.accepts_iff, hs.exits_iff hg hi]
  exact exists_congr fun l => and_congr_right fun hl => by rw [hs.recipe_eq l (Leaf.lt hg hl.1 hi)]

theorem accepts_built (hb : g.recipe i = .built) (hi : i ≠ nothing) {n : Node} (hn : g.content? i = some n) :
    g.Accepts i ↔ n.isAccepting = true := by
  constructor
  · rintro ⟨l, x, hl, -, hx, hacc⟩
    obtain rfl := (leaf_self (.inl ⟨hb, hi⟩)).1 hl
    exact Option.some.inj (hn.symm.trans hx) ▸ hacc
  · exact fun hacc => ⟨i, n, (leaf_self (.inl ⟨hb, hi⟩)).2 rfl, hb, hn, hacc⟩

theorem not_accepts_open (hr : g.recipe i = .marker none) : ¬ g.Accepts i := by
  rintro ⟨l, -, hl, hb, -⟩
  obtain rfl := (leaf_self (.inr hr)).1 hl
  cases hr.symm.trans hb

theorem accepts_derived (hb : g.recipe i ≠ .built) (hm : g.recipe i ≠ .marker none) :
    g.Accepts i ↔ ∃ j, g.Operand i j ∧ g.Accepts j := by
  simp only [Accepts, leaf_derived hb hm]
  exact ⟨fun ⟨l, n, ⟨j, hj, hl⟩, hn⟩ => ⟨j, hj, l, n, hl, hn⟩, fun ⟨j, hj, l, n, hl, hn⟩ => ⟨l, n, ⟨j, hj, hl⟩, hn⟩⟩

theorem accepts_canonical (hf : g.Founded) (i : Nat) : g.Accepts (g.canonical i) ↔ g.Accepts i := by
  simp only [Accepts, leaf_canonical hf]

/-- New nodes of which something is known are built outright, so it is right. -/
theorem Faithful.develops (h : g.Faithful) (hg : g.Tidy) (hd : Develops g g') : g'.Faithful := by
  intro i n hn hm
  have hold : i < g.size → g.content? i = some n → (n.isAccepting = true ↔ g'.Accepts i) := fun hi hn' => by
    rw [hd.grows.accepts_iff hg hi]
    exact h i n hn' fun e hr => hm e ((hd.grows.recipe_eq i hi).trans hr)
  rcases hd.discloses i n hn with hb | hn'
  · by_cases hi : i = nothing
    · subst hi
      have hknown := hg.built nothing hg.nothing_lt hg.recipe_nothing
      exact hold hg.nothing_lt ((hd.grows.content_eq nothing hg.recipe_nothing hknown).symm.trans hn)
    · exact (accepts_built hb hi hn).symm
  · exact hold (lt_size_of_content? (by simp [hn'])) hn'

/-- While nothing is known but that the node that matches nothing does not accept, what is known is right. -/
theorem Blank.faithful (h : Blank g) (hnothing : ∀ n, g.content? nothing = some n → n.isAccepting = false)
    (hg : g.Tidy) : g.Faithful := by
  intro i n hn hm
  have hb : g.recipe i = .built := by_contra fun hb => by simp [h i hb] at hn
  by_cases hi : i = nothing
  · subst hi
    refine iff_of_false (by simp [hnothing n hn]) ?_
    rintro ⟨l, x, hl, -⟩
    exact hg.not_leaf_nothing hl
  · exact (accepts_built hb hi hn).symm

theorem accepts_setNode (hg : g.Tidy) (hk : g.recipe k ≠ .built) (n : Node) (hi : i < g.size) :
    (g.setNode k n).Accepts i ↔ g.Accepts i :=
  (grows_setNode g k n hk).accepts_iff hg hi

theorem Founded.setNode (hf : g.Founded) (k : Nat) (n : Node) : (g.setNode k n).Founded := by
  have hop : (g.setNode k n).Operand = g.Operand := by
    funext i j
    rw [Operand, recipe_setNode, Operand]
  have hsize := size_setNode g k n
  exact ⟨hsize ▸ hf.nothing_lt, fun i j h => hsize ▸ hf.operand_lt i j (hop ▸ h), hop ▸ hf.acyclic⟩

theorem Faithful.setNode (h : g.Faithful) (hg : g.Tidy) (hk : g.recipe k ≠ .built) {n : Node}
    (hn : n.isAccepting = true ↔ g.Accepts k) : (g.setNode k n).Faithful := by
  intro i x hx hm
  have hi : i < g.size := size_setNode g k n ▸ lt_size_of_content? (Option.ne_none_iff_exists'.2 ⟨x, hx⟩)
  rw [accepts_setNode hg hk n hi]
  by_cases hik : i = k
  · subst hik
    rw [content?_setNode_self _ _ _ hi] at hx
    exact Option.some.inj hx ▸ hn
  · rw [content?_setNode_of_ne _ _ _ hik] at hx
    exact h i x hx fun e hr => hm e ((recipe_setNode ..).trans hr)

end Accepts

section Resolve

open EdgeMap (split)

variable {g₀ : Arena} {x y : Node} {fuel : Nat} {busy : List Nat} {visit : Nat → Arena → Node × Arena}

theorem Enlarges.of_slots (hg : g.Tidy) (hf : g.Founded) (h : g'.slots = g.slots) : Enlarges g g' := by
  have htidy := hg.of_slots h
  have hrecipe : g'.recipe = g.recipe := funext fun i => by rw [recipe, h, recipe]
  have hop : g'.Operand = g.Operand := by
    funext i j
    rw [Operand, hrecipe, Operand]
  exact ⟨htidy, htidy.founded (hop ▸ hf.acyclic), grows_of_slots h, discloses_of_slots h⟩

theorem enlarges_unionShared (hg : g.Tidy) (hf : g.Founded) {s : SharedGroup} (hl : s.left.next < g.size)
    (hr : s.right.next < g.size) : Enlarges g (g.unionShared s).2 := by
  have hnote : Enlarges g (g.noteShared s) := .of_slots hg hf (slots_noteShared g s)
  have hunion := leading_union hnote.tidy hnote.founded (Nat.lt_of_lt_of_le hl hnote.grows.size_le)
    (Nat.lt_of_lt_of_le hr hnote.grows.size_le)
  exact hnote.trans hunion.toEnlarges

theorem enlarges_unionSharedAll (hg : g.Tidy) (hf : g.Founded) (ss : List SharedGroup)
    (hs : ∀ s ∈ ss, s.left.next < g.size ∧ s.right.next < g.size) : Enlarges g (g.unionSharedAll ss).2 := by
  induction ss generalizing g with
  | nil => exact .refl hg hf
  | cons s ss ih =>
    obtain ⟨hs, hss⟩ := List.forall_mem_cons.1 hs
    have hfirst := enlarges_unionShared hg hf hs.1 hs.2
    have hsize := hfirst.grows.size_le
    exact hfirst.trans (ih hfirst.tidy hfirst.founded fun s hs =>
      ⟨Nat.lt_of_lt_of_le (hss s hs).1 hsize, Nat.lt_of_lt_of_le (hss s hs).2 hsize⟩)

/-- An arena that has come out of `g₀` and can be worked with: what is known of nodes is right, and known edges lead to
nodes. -/
structure Trusted (g₀ g : Arena) : Prop where
  tidy : g.Tidy
  founded : g.Founded
  targeted : g.Targeted
  faithful : g.Faithful
  grows : Grows g₀ g

/-- A content has been worked out that accepts if `p` holds. -/
structure Judged (g₀ g : Arena) (p : Prop) (result : Node × Arena) : Prop where
  trusted : Trusted g₀ result.2
  grows : Grows g result.2
  below : result.1.Below result.2.size
  accepting : result.1.isAccepting = true ↔ p

theorem Trusted.enlarge (h : Trusted g₀ g) (he : Enlarges g g') : Trusted g₀ g' :=
  ⟨he.tidy, he.founded, h.targeted.of_discloses he.grows he.discloses, h.faithful.develops h.tidy he.develops,
    h.grows.trans he.grows⟩

theorem Judged.after {result : Node × Arena} (h : Judged g₀ g' p result) (hgrows : Grows g g') :
    Judged g₀ g p result :=
  ⟨h.trusted, hgrows.trans h.grows, h.below, h.accepting⟩

theorem Judged.congr {result : Node × Arena} (h : Judged g₀ g p result) (hpq : p ↔ q) : Judged g₀ g q result :=
  ⟨h.trusted, h.grows, h.below, h.accepting.trans hpq⟩

theorem judged_dead (h : Trusted g₀ g) (hp : ¬ p) : Judged g₀ g p (.dead, g) :=
  ⟨h, .refl g, below_dead _, iff_of_false Bool.false_ne_true hp⟩

theorem judged_unionNodes (h : Trusted g₀ g) (hx : x.Below g.size) (hy : y.Below g.size) :
    Judged g₀ g (x.isAccepting = true ∨ y.isAccepting = true) (g.unionNodes x y) := by
  have hprovided := provided_unionNodes h.tidy h.targeted hx hy
  have hshared := enlarges_unionSharedAll h.tidy h.founded (split x.edges y.edges).both fun s hs =>
    have hsides := EdgeMap.sides_of_mem_both hs
    ⟨hx _ hsides.1, hy _ hsides.2⟩
  have hnote : Enlarges _ (g.unionNodes x y).2 :=
    .of_slots hshared.tidy hshared.founded (slots_noteExits (g.unionSharedAll (split x.edges y.edges).both).2 x y)
  exact ⟨h.enlarge (hshared.trans hnote), hprovided.grows, hprovided.below, isAccepting_join⟩

theorem judged_preferNodes (h : Trusted g₀ g) (hx : x.Below g.size) (hy : y.Below g.size) :
    Judged g₀ g (x.isAccepting = true ∨ y.isAccepting = true) (g.preferNodes x y) := by
  have hprovided := provided_preferNodes h.tidy h.targeted hx hy
  have hnote : Enlarges g (g.preferNodes x y).2 := .of_slots h.tidy h.founded (slots_noteExits g x y)
  exact ⟨h.enlarge hnote, hprovided.grows, hprovided.below, isAccepting_join⟩

/-- Noting down a content that says rightly whether the node accepts. -/
theorem Judged.note {n : Node} (h : Judged g₀ g (g₀.Accepts k) (n, g')) (h₀ : g₀.Tidy) (hk : k < g₀.size)
    (hb : g₀.recipe k ≠ .built) : Judged g₀ g (g₀.Accepts k) (n, g'.setNode k n) := by
  have hb' : g'.recipe k ≠ .built := (h.trusted.grows.recipe_eq k hk).trans_ne hb
  have hgrows := grows_setNode g' k n hb'
  have hprovided : Provided g' (n, g'.setNode k n) :=
    Provided.setNode ⟨h.trusted.tidy, h.trusted.targeted, .refl g', h.below⟩ hb'
  have hfaithful := h.trusted.faithful.setNode h.trusted.tidy hb' (n := n)
    (h.accepting.trans (h.trusted.grows.accepts_iff h₀ hk).symm)
  exact ⟨⟨hprovided.tidy, h.trusted.founded.setNode k n, hprovided.targeted, hfaithful, h.trusted.grows.trans hgrows⟩,
    h.grows.trans hgrows, hprovided.below, h.accepting⟩

/-- Nodes of `g₀` that the fuel suffices for are judged rightly. -/
def Judges (g₀ : Arena) (fuel : Nat) (busy : List Nat) (visit : Nat → Arena → Node × Arena) : Prop :=
  ∀ {i : Nat} {g : Arena}, Trusted g₀ g → i < g₀.size → g₀.rank i < fuel → (∀ b ∈ busy, TransGen g₀.Operand b i) →
    Judged g₀ g (g₀.Accepts i) (visit i g)

theorem judged_resolveUnion (hvisit : Judges g₀ fuel busy visit) (rest : List Nat) (h : Trusted g₀ g)
    (hrest : ∀ i ∈ rest, i < g₀.size ∧ g₀.rank i < fuel ∧ ∀ b ∈ busy, TransGen g₀.Operand b i)
    (hx : x.Below g.size) :
    Judged g₀ g (x.isAccepting = true ∨ ∃ i ∈ rest, g₀.Accepts i) (resolveUnion visit rest x g) := by
  induction rest generalizing x g with
  | nil => exact ⟨h, .refl g, hx, by simp [resolveUnion]⟩
  | cons i rest ih =>
    obtain ⟨⟨hi, hrank, hbusy⟩, hrest⟩ := List.forall_mem_cons.1 hrest
    have hone := hvisit h hi hrank hbusy
    have hunion := judged_unionNodes hone.trusted (hx.mono hone.grows.size_le) hone.below
    have hothers := ih hunion.trusted hrest hunion.below
    refine (hothers.after (hone.grows.trans hunion.grows)).congr ?_
    rw [hunion.accepting, hone.accepting, or_assoc]
    simp only [List.mem_cons, exists_eq_or_imp]

theorem judged_resolveRecipe (hvisit : Judges g₀ fuel (i :: busy) visit) (h₀ : g₀.Founded) (h : Trusted g₀ g)
    (hi : i < g₀.size) (hrank : g₀.rank i < fuel + 1) (hbusy : ∀ b ∈ busy, TransGen g₀.Operand b i)
    (hb : g₀.recipe i ≠ .built) (hm : ∀ e, g₀.recipe i ≠ .marker (some e)) :
    Judged g₀ g (g₀.Accepts i) (resolveRecipe visit (g.recipe i) g) := by
  have hready : ∀ j, g₀.Operand i j →
      j < g₀.size ∧ g₀.rank j < fuel ∧ ∀ b ∈ i :: busy, TransGen g₀.Operand b j := fun j hop => by
    refine ⟨h₀.operand_lt i j hop, Nat.lt_of_lt_of_le (h₀.rank_lt hop) (Nat.le_of_lt_succ hrank), ?_⟩
    exact List.forall_mem_cons.2 ⟨.single hop, fun b hb => (hbusy b hb).tail hop⟩
  have hjudged : ∀ {g} j, Trusted g₀ g → g₀.Operand i j → Judged g₀ g (g₀.Accepts j) (visit j g) := fun j h hop =>
    have hj := hready j hop
    hvisit h hj.1 hj.2.1 hj.2.2
  rw [h.grows.recipe_eq i hi, resolveRecipe.eq_def]
  cases hr : g₀.recipe i with
  | built => exact absurd hr hb
  | marker target? =>
    cases target? with
    | none => exact judged_dead h (not_accepts_open hr)
    | some e => exact absurd hr (hm e)
  | union members =>
    have hall := judged_resolveUnion hvisit members.toList h (fun m hm => hready m (operand_member hr hm))
      (below_dead _)
    refine hall.congr ((or_iff_right Bool.false_ne_true).trans ?_)
    rw [accepts_derived (by simp [hr]) (by simp [hr])]
    simp only [Operand, hr]
    exact Iff.rfl
  | annotate inner added =>
    have hinner := hjudged inner h (operand_inner hr)
    refine ⟨hinner.trusted, hinner.grows, below_overlay hinner.below, hinner.accepting.trans ?_⟩
    rw [accepts_derived (i := i) (by simp [hr]) (by simp [hr])]
    simp [Operand, hr]
  | prefer winner loser =>
    have hw := hjudged winner h (operand_winner hr)
    have hl := hjudged loser hw.trusted (operand_loser hr)
    have hboth := judged_preferNodes hl.trusted (hw.below.mono hl.grows.size_le) hl.below
    refine (hboth.after (hw.grows.trans hl.grows)).congr ?_
    rw [hw.accepting, hl.accepting, accepts_derived (i := i) (by simp [hr]) (by simp [hr])]
    simp [Operand, hr]

theorem Grows.canonical_eq (hs : Grows g₀ g) (h₀ : g₀.Founded) (hf : g.Founded) (hi : i < g₀.size) :
    g.canonical i = g₀.canonical i := by
  induction i using canonical_induct h₀ with
  | entry i e hr ih =>
    rw [canonical_entry h₀ hr, canonical_entry hf ((hs.recipe_eq i hi).trans hr)]
    exact ih (h₀.operand_lt i e (operand_entry hr))
  | other i hm => rw [canonical_of_ne hm, canonical_of_ne fun e hr => hm e ((hs.recipe_eq i hi).symm.trans hr)]

theorem judges_resolveWithin (h₀ : g₀.Tidy) (hf₀ : g₀.Founded) (fuel : Nat) (busy : List Nat) :
    Judges g₀ fuel busy (resolveWithin fuel busy) := by
  induction fuel generalizing busy with
  | zero => exact fun _ _ hrank => absurd hrank (Nat.not_lt_zero _)
  | succ fuel ih =>
    intro i g h hi hrank hbusy
    have hlt := h₀.canonical_lt hi
    have hrank := Nat.lt_of_le_of_lt (rank_canonical_le hf₀ i) hrank
    have hm := canonical_ne_entry hf₀ i
    have hderives := derives_canonical hf₀ i
    rw [resolveWithin, h.grows.canonical_eq hf₀ h.founded hi]
    refine Judged.congr ?_ (accepts_canonical hf₀ i)
    generalize g₀.canonical i = c at hlt hrank hm hderives
    have hbusy : ∀ b ∈ busy, TransGen g₀.Operand b c := fun b hb => (hbusy b hb).trans_left hderives
    have hm' : ∀ e, g.recipe c ≠ .marker (some e) := fun e hr => hm e ((h.grows.recipe_eq c hlt).symm.trans hr)
    dsimp only
    split
    · rename_i n hn
      exact ⟨h, .refl g, h.targeted c n hn, (h.faithful c n hn hm').trans (h.grows.accepts_iff h₀ hlt)⟩
    · rename_i hn
      have hb : g₀.recipe c ≠ .built := fun hr =>
        h.tidy.built c (Nat.lt_of_lt_of_le hlt h.grows.size_le) ((h.grows.recipe_eq c hlt).trans hr) hn
      have hnot : busy.contains c = false := by simpa using fun hc => hf₀.acyclic c (hbusy c hc)
      rw [hnot, if_neg Bool.false_ne_true]
      exact (judged_resolveRecipe (ih (c :: busy)) hf₀ h hlt hrank hbusy hb hm).note h₀ hlt hb

/-- Working out a node tells whether it accepts. -/
theorem isAccepting_resolve (hg : g.Tidy) (hf : g.Founded) (ht : g.Targeted) (h : g.Faithful) (hi : i < g.size) :
    (g.resolve i).1.isAccepting = true ↔ g.Accepts i :=
  (judges_resolveWithin hg hf (g.size + 1) [] ⟨hg, hf, ht, h, .refl g⟩ hi (Nat.lt_succ_of_lt (hf.rank_lt_size i))
    fun _ hb => nomatch hb).accepting

end Resolve

end Polymatch.Arena
