import Polymatch.Proofs.Arena.Languages

/-! # Arenas that agree up to the names of nodes

Two arenas match along a relation between their nodes if related nodes derive in the same way from
related nodes, and related built nodes have the same edges, which lead to related nodes. Related
nodes then spell the same traces.
-/

namespace Polymatch

variable {R R' : Nat → Nat → Prop} {r r' s : Recipe} {n n' : Node}

theorem exists_related {l l' : List Nat} (h : List.Forall₂ R l l') {i : Nat} (hi : i ∈ l) : ∃ j ∈ l', R i j := by
  induction h with
  | nil => cases hi
  | cons hij _ ih =>
    rcases List.mem_cons.1 hi with rfl | hi
    · exact ⟨_, List.mem_cons_self, hij⟩
    · obtain ⟨j, hj, hij⟩ := ih hi
      exact ⟨j, List.mem_cons_of_mem _ hj, hij⟩

/-- The recipes agree up to the names of nodes. -/
inductive Recipe.Alike (R : Nat → Nat → Prop) : Recipe → Recipe → Prop
  | built : Alike R .built .built
  | union {members members' : IdSet} : List.Forall₂ R members.toList members'.toList →
    Alike R (.union members) (.union members')
  | annotate {i i' : Nat} (marks : Marks) : R i i' → Alike R (.annotate i marks) (.annotate i' marks)
  | prefer {w w' l l' : Nat} : R w w' → R l l' → Alike R (.prefer w l) (.prefer w' l')
  | opened : Alike R (.marker none) (.marker none)
  | closed {e e' : Nat} : R e e' → Alike R (.marker (some e)) (.marker (some e'))

namespace Recipe.Alike

theorem mono (h : r.Alike R r') (hR : ∀ i j, R i j → R' i j) : r.Alike R' r' := by
  cases h with
  | built => exact .built
  | union h => exact .union (h.imp hR)
  | annotate marks h => exact .annotate marks (hR _ _ h)
  | prefer hw hl => exact .prefer (hR _ _ hw) (hR _ _ hl)
  | opened => exact .opened
  | closed h => exact .closed (hR _ _ h)

theorem flip (h : r.Alike R r') : r'.Alike (fun j i => R i j) r := by
  cases h with
  | built => exact .built
  | union h => exact .union h.flip
  | annotate marks h => exact .annotate marks h
  | prefer hw hl => exact .prefer hw hl
  | opened => exact .opened
  | closed h => exact .closed h

/-- A relation that does not take different nodes together does not take different recipes together. -/
theorem left_unique (h : r.Alike R s) (h' : r'.Alike R s) (hR : Relator.LeftUnique R) : r = r' := by
  cases h with
  | built => cases h'; rfl
  | union h =>
    cases h' with
    | union h' => exact congrArg Recipe.union (SortedSet.ext_toList (List.left_unique_forall₂' hR h h'))
  | annotate marks h =>
    cases h' with
    | annotate _ h' => rw [hR h h']
  | prefer hw hl =>
    cases h' with
    | prefer hw' hl' => rw [hR hw hw', hR hl hl']
  | opened => cases h'; rfl
  | closed h =>
    cases h' with
    | closed h' => rw [hR h h']

theorem right_unique (h : s.Alike R r) (h' : s.Alike R r') (hR : Relator.RightUnique R) : r = r' :=
  h.flip.left_unique h'.flip fun _ _ _ hij hkj => hR hij hkj

theorem atomic_iff (h : r.Alike R r') : (∀ members, r ≠ .union members) ↔ ∀ members, r' ≠ .union members := by
  cases h with
  | union h => exact iff_of_false (fun hne => hne _ rfl) fun hne => hne _ rfl
  | _ => exact iff_of_true (fun _ => Recipe.noConfusion) fun _ => Recipe.noConfusion

/-- The nodes that alike recipes name are related. -/
theorem names (h : r.Alike R r') {i : Nat} (hi : r.Names i) : ∃ j, R i j ∧ r'.Names j := by
  cases h with
  | built => exact hi.elim
  | union h =>
    obtain ⟨j, hj, hij⟩ := exists_related h hi
    exact ⟨j, hij, hj⟩
  | annotate marks h => exact ⟨_, hi ▸ h, rfl⟩
  | prefer hw hl =>
    rcases hi with rfl | rfl
    · exact ⟨_, hw, .inl rfl⟩
    · exact ⟨_, hl, .inr rfl⟩
  | opened => cases hi
  | closed h =>
    cases hi
    exact ⟨_, h, rfl⟩

end Recipe.Alike

/-- Edges with the same routes and marks that lead to related nodes. -/
structure Link.Alike (R : Nat → Nat → Prop) (k k' : Link) : Prop where
  next : R k.next k'.next
  routes : k.routes = k'.routes
  marks : k.marks = k'.marks

/-- The nodes agree up to where their edges lead. -/
structure Node.Alike (R : Nat → Nat → Prop) (n n' : Node) : Prop where
  accept : n.accept = n'.accept
  exit : n.exit = n'.exit
  link : ∀ x, Option.Rel (Link.Alike R) (n.edges.link? x) (n'.edges.link? x)

theorem Node.Alike.mono (h : n.Alike R n') (hR : ∀ i j, R i j → R' i j) : n.Alike R' n' := by
  refine ⟨h.accept, h.exit, fun x => ?_⟩
  have hx := h.link x
  generalize n.edges.link? x = k? at hx
  generalize n'.edges.link? x = k'? at hx
  cases hx with
  | none => exact .none
  | some hk => exact .some ⟨hR _ _ hk.next, hk.routes, hk.marks⟩

theorem Node.Alike.flip (h : n.Alike R n') : n'.Alike (fun j i => R i j) n := by
  refine ⟨h.accept.symm, h.exit.symm, fun x => ?_⟩
  have hx := h.link x
  generalize n.edges.link? x = k? at hx
  generalize n'.edges.link? x = k'? at hx
  cases hx with
  | none => exact .none
  | some hk => exact .some ⟨hk.next, hk.routes.symm, hk.marks.symm⟩

theorem Node.Alike.isAccepting (h : n.Alike R n') : n.isAccepting = n'.isAccepting := by
  rw [Node.isAccepting, h.accept, Node.isAccepting]

namespace Arena

variable {g g' : Arena} {stops stops' : Nat → Prop} {i i' j j' l x : Nat} {marks : Marks}

/-- The arenas agree up to the names of nodes. -/
structure Matches (g g' : Arena) (R : Nat → Nat → Prop) : Prop where
  recipe : ∀ {i i' : Nat}, R i i' → (g.recipe i).Alike R (g'.recipe i')
  nothing_iff : ∀ {i i' : Nat}, R i i' → (i = nothing ↔ i' = nothing)
  content : ∀ {i i' : Nat}, R i i' → g.recipe i = .built →
    ∃ n n', g.content? i = some n ∧ g'.content? i' = some n' ∧ n.Alike R n'

namespace Matches

variable (hm : Matches g g' R) (h : R i i')
include hm h

theorem built (hr : g.recipe i = .built) : g'.recipe i' = .built := by
  have halike := hm.recipe h
  rw [hr] at halike
  generalize g'.recipe i' = r at halike
  cases halike
  rfl

theorem opened (hr : g.recipe i = .marker none) : g'.recipe i' = .marker none := by
  have halike := hm.recipe h
  rw [hr] at halike
  generalize g'.recipe i' = r at halike
  cases halike
  rfl

theorem entry {e : Nat} (hr : g.recipe i = .marker (some e)) :
    ∃ e', g'.recipe i' = .marker (some e') ∧ R e e' := by
  have halike := hm.recipe h
  rw [hr] at halike
  generalize g'.recipe i' = r at halike
  cases halike with
  | closed he => exact ⟨_, rfl, he⟩

theorem union {members : IdSet} (hr : g.recipe i = .union members) :
    ∃ members', g'.recipe i' = .union members' ∧ List.Forall₂ R members.toList members'.toList := by
  have halike := hm.recipe h
  rw [hr] at halike
  generalize g'.recipe i' = r at halike
  cases halike with
  | union hmembers => exact ⟨_, rfl, hmembers⟩

theorem annotate {added : Marks} (hr : g.recipe i = .annotate j added) :
    ∃ j', g'.recipe i' = .annotate j' added ∧ R j j' := by
  have halike := hm.recipe h
  rw [hr] at halike
  generalize g'.recipe i' = r at halike
  cases halike with
  | annotate _ hj => exact ⟨_, rfl, hj⟩

theorem prefer {w v : Nat} (hr : g.recipe i = .prefer w v) :
    ∃ w' v', g'.recipe i' = .prefer w' v' ∧ R w w' ∧ R v v' := by
  have halike := hm.recipe h
  rw [hr] at halike
  generalize g'.recipe i' = r at halike
  cases halike with
  | prefer hw hv => exact ⟨_, _, rfl, hw, hv⟩

theorem operand (hop : g.Operand i j) : ∃ j', R j j' ∧ g'.Operand i' j' := (hm.recipe h).names hop

theorem atomic_iff : g.Atomic i ↔ g'.Atomic i' := (hm.recipe h).atomic_iff

omit h in
theorem flip : Matches g' g fun j i => R i j where
  recipe h := (hm.recipe h).flip
  nothing_iff h := (hm.nothing_iff h).symm
  content {i' i} h hr := by
    have halike := hm.recipe h
    rw [hr] at halike
    generalize hr' : g.recipe i = r at halike
    cases halike
    obtain ⟨n, n', hn, hn', halike⟩ := hm.content h hr'
    exact ⟨n', n, hn', hn, halike.flip⟩

omit h in
/-- A path has a counterpart that leads to a related leaf. -/
theorem path (hstops : ∀ {w w'}, R w w' → stops' w' → stops w) (hp : Path g (fun _ => False) stops i l marks)
    (h : R i i') : ∃ l', R l l' ∧ Path g' (fun _ => False) stops' i' l' marks := by
  induction hp generalizing i' with
  | leaf _ hl =>
    refine ⟨i', h, .leaf id (hl.imp (fun hl => ⟨hm.built h hl.1, ?_⟩) (hm.opened h))⟩
    exact fun hi => hl.2 ((hm.nothing_iff h).2 hi)
  | member _ hr hmem _ ih =>
    obtain ⟨members', hr', hmembers⟩ := hm.union h hr
    obtain ⟨m', hm', hR⟩ := exists_related hmembers hmem
    obtain ⟨l', hl', hp'⟩ := ih hR
    exact ⟨l', hl', .member id hr' hm' hp'⟩
  | inner _ hr _ ih =>
    obtain ⟨j', hr', hR⟩ := hm.annotate h hr
    obtain ⟨l', hl', hp'⟩ := ih hR
    exact ⟨l', hl', .inner id hr' hp'⟩
  | winner _ hr _ ih =>
    obtain ⟨w', v', hr', hw, -⟩ := hm.prefer h hr
    obtain ⟨l', hl', hp'⟩ := ih hw
    exact ⟨l', hl', .winner id hr' hp'⟩
  | loser _ hr hs _ ih =>
    obtain ⟨w', v', hr', hw, hv⟩ := hm.prefer h hr
    obtain ⟨l', hl', hp'⟩ := ih hv
    exact ⟨l', hl', .loser id hr' (fun hs' => hs (hstops hw hs')) hp'⟩
  | entry _ hr _ ih =>
    obtain ⟨e', hr', hR⟩ := hm.entry h hr
    obtain ⟨l', hl', hp'⟩ := ih hR
    exact ⟨l', hl', .entry id hr' hp'⟩

omit h

section Closed

variable (hclosed : ∀ i, g.recipe i ≠ .marker none)
include hclosed

/-- Without open markers, a path ends at a node that is built outright. -/
theorem content_leaf (hp : Path g (fun _ => False) stops i l marks) (h : R l j) :
    ∃ n n', g.content? l = some n ∧ g'.content? j = some n' ∧ n.Alike R n' :=
  hm.content h (hp.isLeaf.resolve_right (hclosed l)).1

theorem linkAt? (hp : Path g (fun _ => False) stops i l marks) (h : R l j) {k : Link}
    (hk : g.linkAt? l x = some k) : ∃ k', g'.linkAt? j x = some k' ∧ k.Alike R k' := by
  obtain ⟨n, n', hn, hn', halike⟩ := hm.content_leaf hclosed hp h
  rw [Arena.linkAt?, hn, Option.bind_some] at hk
  have hx := halike.link x
  rw [hk] at hx
  rw [Arena.linkAt?, hn', Option.bind_some]
  generalize n'.edges.link? x = k'? at hx
  cases hx with
  | some hk => exact ⟨_, rfl, hk⟩

theorem binds (hb : Binds g (fun _ => False) i x) (h : R i i') : Binds g' (fun _ => False) i' x := by
  obtain ⟨l, k, ⟨marks, hp⟩, hk⟩ := hb
  obtain ⟨l', hl', hp'⟩ := hm.path (fun _ (hs : False) => hs) hp h
  obtain ⟨k', hk', -⟩ := hm.linkAt? hclosed hp hl' hk
  exact ⟨l', k', ⟨marks, hp'⟩, hk'⟩

theorem ends (he : Ends g (fun _ => False) i marks) (h : R i i') : Ends g' (fun _ => False) i' marks := by
  obtain ⟨l, before, n, hp, hn, hacc, rfl⟩ := he
  obtain ⟨l', hl', hp'⟩ := hm.path (fun _ (hs : False) => hs) hp h
  obtain ⟨m, m', hm, hm', halike⟩ := hm.content_leaf hclosed hp hl'
  obtain rfl := Option.some.inj (hn.symm.trans hm)
  exact ⟨l', before, m', hp', hm', halike.isAccepting ▸ hacc, by rw [halike.exit]⟩

variable (hclosed' : ∀ i, g'.recipe i ≠ .marker none)
include hclosed'

theorem leads (hl : Leads g (fun _ => False) i x marks j) (h : R i i') :
    ∃ j', R j j' ∧ Leads g' (fun _ => False) i' x marks j' := by
  obtain ⟨l, before, k, hp, hk, rfl, rfl⟩ := hl
  obtain ⟨l', hl', hp'⟩ := hm.path (fun hw hs => hm.flip.binds hclosed' hs hw) hp h
  obtain ⟨k', hk', halike⟩ := hm.linkAt? hclosed hp hl' hk
  exact ⟨k'.next, halike.next, l', before, k', hp', hk', by rw [halike.marks], rfl⟩

theorem spells {t : Trace} (hs : Spells g (fun _ => False) i t marks) (h : R i i') :
    Spells g' (fun _ => False) i' t marks := by
  induction t generalizing i i' with
  | nil => exact hm.ends hclosed hs h
  | cons step t ih =>
    obtain ⟨j, hl, hs⟩ := hs
    obtain ⟨j', hj, hl'⟩ := hm.leads hclosed hclosed' hl h
    exact ⟨j', hl', ih hs hj⟩

/-- Once all loops are closed, related nodes spell the same. -/
theorem spells_iff {t : Trace} (h : R i i') :
    Spells g' (fun _ => False) i' t marks ↔ Spells g (fun _ => False) i t marks :=
  ⟨fun hs => hm.flip.spells hclosed' hclosed hs h, fun hs => hm.spells hclosed hclosed' hs h⟩

end Closed

end Matches

end Arena

end Polymatch
