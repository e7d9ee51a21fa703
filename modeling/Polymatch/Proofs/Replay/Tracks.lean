import Polymatch.Proofs.Pattern.Walks
import Polymatch.Proofs.Replay.Trails

/-! # Trails through emitted code

A trail through the code of a pattern takes a walk through the pattern, and its groups
are those of the walk. It cannot come back to the fork of a loop before the round has
read a symbol, since it was there already.
-/

namespace Polymatch

namespace Event

open Program (Groups openGroup closeGroup)

/-- The groups behind some events that happen from a position on. -/
def perform (layout : Layout) : Nat → Groups → List Event → Groups
  | _, groups, [] => groups
  | pos, groups, opening label :: es =>
    perform layout pos (openGroup groups (layout.labels.idxOf label) pos) es
  | pos, groups, closing label _ :: es =>
    perform layout pos (closeGroup groups (layout.labels.idxOf label) pos) es
  | pos, groups, read _ _ :: es => perform layout (pos + 1) groups es

theorem perform_append (layout : Layout) (pos : Nat) (groups : Groups) (es es' : List Event) :
    perform layout pos groups (es ++ es') =
      perform layout (pos + (word es).length) (perform layout pos groups es) es' := by
  induction es generalizing pos groups with
  | nil => rfl
  | cons event es ih =>
    cases event with
    | opening label => exact ih ..
    | closing label nullable => exact ih ..
    | read x owed =>
      rw [List.cons_append, perform, ih, perform, Nat.add_right_comm]
      rfl

end Event

namespace Program

open Event

variable {q : Program} {layout : Layout} {way way' way'' : List Event → Prop} {a b c next pos x g : Nat}
  {w entered : List Nat} {t : Thread} {groups found : Groups} {ranges : List Interval}
  {code code' : Array Instr} {r r' : Nat × Array Instr}

theorem Trail.of_fork (h : q.Trail entered t pos w found)
    (hforks : (q.code.getD t.address default).forks ≠ []) :
    t.address ∉ entered ∧ ∃ t' ∈ q.fork pos t, q.Trail (t.address :: entered) t' pos w found := by
  cases h with
  | accept hi => exact absurd (by rw [hi]; rfl) hforks
  | fork hentered ht' htrail => exact ⟨hentered, _, ht', htrail⟩
  | consume hc _ =>
    obtain ⟨ranges, next, hi, -, -⟩ := consume?_eq_some.1 hc
    exact absurd (by rw [hi]; rfl) hforks

theorem Trail.of_symbols (h : q.Trail entered t pos w found)
    (hi : q.code.getD t.address default = .symbols ranges next) :
    ∃ x v, w = x :: v ∧ Interval.covers ranges x = true ∧ q.Trail [] { t with address := next } (pos + 1) v found := by
  cases h with
  | accept hj => cases hi.symm.trans hj
  | fork _ ht' _ =>
    rw [Program.fork, hi] at ht'
    cases ht'
  | @consume _ v _ _ _ x _ hc htrail =>
    obtain ⟨_, _, hj, hx, rfl⟩ := consume?_eq_some.1 hc
    obtain ⟨rfl, rfl⟩ := Instr.symbols.inj (hi.symm.trans hj)
    exact ⟨x, v, rfl, hx, htrail⟩

/-- A trail goes on at one of two addresses, if it was not there before. -/
theorem Trail.of_loopSplit {policy : LoopPolicy} (h : q.Trail entered ⟨a, groups⟩ pos w found)
    (hi : q.code[a]? = some (loopSplit policy b c)) : a ∉ entered ∧
      (q.Trail (a :: entered) ⟨b, groups⟩ pos w found ∨ q.Trail (a :: entered) ⟨c, groups⟩ pos w found) := by
  have hcode := getD_code hi
  have hforks : (q.code.getD a default).forks ≠ [] := by
    rw [hcode]
    exact List.ne_nil_of_mem (mem_forks_loopSplit.2 (.inl rfl))
  obtain ⟨hentered, t', ht', htrail⟩ := h.of_fork hforks
  have hfork : t' = ⟨b, groups⟩ ∨ t' = ⟨c, groups⟩ := by
    rw [Program.fork, hcode] at ht'
    cases policy with
    | plain => simpa [loopSplit] using ht'
    | extending => simpa [loopSplit] using ht'
    | limiting => simpa [loopSplit, or_comm] using ht'
  refine ⟨hentered, ?_⟩
  rcases hfork with rfl | rfl
  · exact .inl htrail
  · exact .inr htrail

/-- Trails from an address take a way to the next one. A way without symbols forgets no address. -/
def Tracks (q : Program) (layout : Layout) (way : List Event → Prop) (a next : Nat) : Prop :=
  ∀ (entered : List Nat) (groups : Groups) (pos : Nat) (w : List Nat) (found : Groups),
    q.Trail entered ⟨a, groups⟩ pos w found → ∃ es entered' v, way es ∧ word es ++ v = w ∧
      (word es = [] → entered ⊆ entered') ∧
        q.Trail entered' ⟨next, perform layout pos groups es⟩ (pos + (word es).length) v found

namespace Tracks

theorem refl (h : way []) (a : Nat) : Tracks q layout way a a := fun entered _ _ w _ htrail =>
  ⟨[], entered, w, h, rfl, fun _ => List.Subset.refl entered, htrail⟩

theorem mono (h : Tracks q layout way a b) (hway : ∀ es, way es → way' es) : Tracks q layout way' a b := by
  intro entered groups pos w found htrail
  obtain ⟨es, entered', v, hes, hw, hentered, htrail'⟩ := h _ _ _ _ _ htrail
  exact ⟨es, entered', v, hway es hes, hw, hentered, htrail'⟩

theorem comp (h : Tracks q layout way a b) (h' : Tracks q layout way' b c)
    (hway : ∀ es es', way es → way' es' → way'' (es ++ es')) : Tracks q layout way'' a c := by
  intro entered groups pos w found htrail
  obtain ⟨es, entered', _, hes, rfl, hentered, htrail⟩ := h _ _ _ _ _ htrail
  obtain ⟨es', entered'', v, hes', rfl, hentered', htrail⟩ := h' _ _ _ _ _ htrail
  refine ⟨es ++ es', entered'', v, hway es es' hes hes', ?_, fun hw => ?_, ?_⟩
  · rw [word_append, List.append_assoc]
  · obtain ⟨hw, hw'⟩ := word_append_eq_nil.1 hw
    exact List.Subset.trans (hentered hw) (hentered' hw')
  · rwa [perform_append, word_append, List.length_append, ← Nat.add_assoc]

end Tracks

theorem tracks_symbols (hi : q.code[a]? = some (.symbols ranges next)) (owed : Marks)
    (hway : ∀ x, Interval.covers ranges x = true → way [.read x owed]) : Tracks q layout way a next := by
  intro entered groups pos w found htrail
  obtain ⟨x, v, rfl, hx, htrail⟩ := htrail.of_symbols (getD_code hi)
  exact ⟨[.read x owed], [], v, hway x hx, rfl, nofun, htrail⟩

theorem tracks_split (hi : q.code[a]? = some (.split b c)) (h : Tracks q layout way b next)
    (h' : Tracks q layout way c next) : Tracks q layout way a next := by
  intro entered groups pos w found htrail
  have hsplit : q.code[a]? = some (loopSplit .plain b c) := hi
  obtain ⟨-, htrail⟩ := htrail.of_loopSplit hsplit
  obtain ⟨es, entered', v, hes, hw, hentered, htrail⟩ :=
    htrail.elim (h _ _ _ _ _) (h' _ _ _ _ _)
  exact ⟨es, entered', v, hes, hw,
    fun hw => List.Subset.trans (List.subset_cons_self a entered) (hentered hw), htrail⟩

/-- An instruction that goes on at once tells one event. -/
theorem tracks_pass {event : Event} {i : Instr} (hi : q.code[a]? = some i) (hforks : i.forks ≠ [])
    (hevent : word [event] = [])
    (hfork : ∀ pos groups, q.fork pos ⟨a, groups⟩ = [⟨next, perform layout pos groups [event]⟩]) :
    Tracks q layout (· = [event]) a next := by
  intro entered groups pos w found htrail
  obtain ⟨-, t', ht', htrail⟩ := htrail.of_fork (by rwa [getD_code hi])
  rw [hfork] at ht'
  obtain rfl := List.mem_singleton.1 ht'
  refine ⟨[event], _, w, rfl, by rw [hevent]; rfl, fun _ => List.subset_cons_self a entered, ?_⟩
  rwa [hevent]

/-- A group is opened in front of a part and closed behind it. -/
theorem tracks_group {label : Label} (hg : layout.labels.idxOf label = g) (hopen : q.code[a]? = some (.opening g b))
    (h : Tracks q layout way b c) (hclose : q.code[c]? = some (.closing g next)) (nullable : Bool) :
    Tracks q layout (fun es' => ∃ es, way es ∧ .opening label :: (es ++ [.closing label nullable]) = es') a next := by
  have hopening : Tracks q layout (· = [.opening label]) a b :=
    tracks_pass hopen (List.cons_ne_nil _ _) rfl fun pos groups => by
      rw [fork, getD_code hopen, perform, hg]
      rfl
  have hclosing : Tracks q layout (· = [.closing label nullable]) c next :=
    tracks_pass hclose (List.cons_ne_nil _ _) rfl fun pos groups => by
      rw [fork, getD_code hclose, perform, hg]
      rfl
  have hbehind : Tracks q layout (fun es' => ∃ es, way es ∧ es ++ [.closing label nullable] = es') b next :=
    h.comp hclosing fun es _ hes hend => ⟨es, hes, by rw [hend]⟩
  refine hopening.comp hbehind ?_
  rintro _ _ rfl ⟨es, hes, rfl⟩
  exact ⟨es, hes, rfl⟩

/-- Rounds of a loop, all of which read symbols. -/
def Moving (way : List Event → Prop) (es : List Event) : Prop :=
  ∃ rounds : List (List Event), (∀ es ∈ rounds, way es) ∧ (∀ es ∈ rounds, word es ≠ []) ∧ rounds.flatten = es

theorem moving_nil (way : List Event → Prop) : Moving way [] :=
  ⟨[], List.forall_mem_nil _, List.forall_mem_nil _, rfl⟩

theorem Moving.cons {es es' : List Event} (h : way es) (hmove : word es ≠ []) (h' : Moving way es') :
    Moving way (es ++ es') := by
  obtain ⟨rounds, hrounds, hmoves, rfl⟩ := h'
  exact ⟨es :: rounds, List.forall_mem_cons.2 ⟨h, hrounds⟩, List.forall_mem_cons.2 ⟨hmove, hmoves⟩, rfl⟩

/-- The rounds of a loop read symbols: behind a round without symbols the fork would be entered again. -/
theorem tracks_loop {policy : LoopPolicy} (hi : q.code[a]? = some (loopSplit policy b next))
    (h : Tracks q layout way b a) : Tracks q layout (Moving way) a next := by
  intro entered groups pos w found htrail
  induction hn : w.length using Nat.strongRecOn generalizing entered groups pos w with
  | ind n ih =>
    subst hn
    obtain ⟨-, htrail | htrail⟩ := htrail.of_loopSplit hi
    · obtain ⟨es, entered', v, hes, rfl, hentered, htrail⟩ := h _ _ _ _ _ htrail
      have hmove : word es ≠ [] := fun hw =>
        (htrail.of_loopSplit hi).1 (hentered hw List.mem_cons_self)
      have hshorter : v.length < (word es ++ v).length := by
        have := List.length_pos_iff.2 hmove
        rw [List.length_append]
        omega
      obtain ⟨es', entered'', v', hrounds, rfl, -, htrail⟩ := ih _ hshorter _ _ _ _ htrail rfl
      refine ⟨es ++ es', entered'', v', hrounds.cons hes hmove, ?_, fun hw => ?_, ?_⟩
      · rw [word_append, List.append_assoc]
      · exact absurd (word_append_eq_nil.1 hw).1 hmove
      · rwa [perform_append, word_append, List.length_append, ← Nat.add_assoc]
    · exact ⟨[], _, w, moving_nil way, rfl, fun _ => List.subset_cons_self a entered, htrail⟩

variable {opens : Nat → Prop} {L : Language Nat}

/-- Copies of a part, all of them or as many as may be enough. -/
def Copied (way : List Event → Prop) (mayEnd : Nat → Bool) (first n : Nat) (es : List Event) : Prop :=
  ∃ copies : List (List Event), (∀ es ∈ copies, way es) ∧
    (copies.length = n ∨ copies.length < n ∧ mayEnd (first + copies.length) = true) ∧ copies.flatten = es

theorem Copied.cons {mayEnd : Nat → Bool} {first n : Nat} {es es' : List Event} (h : way es)
    (h' : Copied way mayEnd (first + 1) n es') : Copied way mayEnd first (n + 1) (es ++ es') := by
  obtain ⟨copies, hcopies, hlength, rfl⟩ := h'
  refine ⟨es :: copies, List.forall_mem_cons.2 ⟨h, hcopies⟩, ?_, rfl⟩
  rw [List.length_cons, Nat.add_comm copies.length, ← Nat.add_assoc]
  exact hlength.imp (by omega) fun h => ⟨by omega, h.2⟩

theorem tracks_copies {body : Nat → Array Instr → Nat × Array Instr}
    (hbody : ∀ next code, Emitted code next opens L (body next code))
    (h : ∀ next code, Contains q.code (body next code).2 code.size (body next code).2.size →
      Tracks q layout way (body next code).1 next) (mayEnd : Nat → Bool) (next : Nat) (code : Array Instr)
    (first n : Nat) (hq : Contains q.code (emitCopies body mayEnd next (List.range' first n) code).2 code.size
      (emitCopies body mayEnd next (List.range' first n) code).2.size) :
    Tracks q layout (Copied way mayEnd first n) (emitCopies body mayEnd next (List.range' first n) code).1
      next := by
  induction n generalizing first with
  | zero => exact .refl ⟨[], List.forall_mem_nil _, .inl rfl, rfl⟩ next
  | succ n ih =>
    have hrest := emitted_copies hbody mayEnd next (List.range' (first + 1) n) code
    have ih := ih (first + 1)
    simp only [emitCopies, List.range'_succ, List.foldr_cons] at hq hrest ih ⊢
    generalize List.foldr _ (next, code) (List.range' (first + 1) n) = r at hq hrest ih ⊢
    have hagain := hbody r.1 r.2
    have htracks := h r.1 r.2
    generalize body r.1 r.2 = r' at hq hagain htracks ⊢
    have hround : Contains q.code r'.2 code.size r'.2.size →
        Tracks q layout (Copied way mayEnd first (n + 1)) r'.1 next := fun hq =>
      (htracks (hrest.contains_new hq)).comp (ih (hagain.contains hq)) fun _ _ => Copied.cons
    split at hq
    · rename_i hend
      rw [if_pos hend]
      have hi := getElem?_contains_place (Nat.le_trans hrest.size_le hagain.size_le) hq
      have hstop : Copied way mayEnd first (n + 1) [] :=
        ⟨[], List.forall_mem_nil _, .inr ⟨Nat.succ_pos n, hend⟩, rfl⟩
      exact tracks_split hi (hround (contains_of_place hq)) (.refl hstop next)
    · rename_i hend
      rw [if_neg hend]
      exact hround hq

/-- Copies that a loop demands, and rounds of the loop behind them. -/
def Looped (way : List Event → Prop) (min : Nat) (es : List Event) : Prop :=
  ∃ copies rounds : List (List Event), copies.length = min ∧ (∀ es ∈ copies, way es) ∧ (∀ es ∈ rounds, way es) ∧
    (∀ es ∈ rounds, word es ≠ []) ∧ copies.flatten ++ rounds.flatten = es

/-- The fork of a loop around a part, in front of the copies that the loop demands. -/
def emitRounds (body : Nat → Array Instr → Nat × Array Instr) (policy : LoopPolicy) (min next : Nat)
    (code : Array Instr) : Nat × Array Instr :=
  let round := body code.size (place .accept code).2
  emitCopies body (fun _ => false) code.size (List.range min)
    (round.2.setIfInBounds code.size (loopSplit policy round.1 next))

theorem tracks_rounds {body : Nat → Array Instr → Nat × Array Instr}
    (hbody : ∀ next code, Emitted code next opens L (body next code))
    (h : ∀ next code, Contains q.code (body next code).2 code.size (body next code).2.size →
      Tracks q layout way (body next code).1 next) (policy : LoopPolicy) (min next : Nat) (code : Array Instr)
    (hq : Contains q.code (emitRounds body policy min next code).2 code.size
      (emitRounds body policy min next code).2.size) :
    Tracks q layout (Looped way min) (emitRounds body policy min next code).1 next := by
  have hround := hbody code.size (place .accept code).2
  have htracks := h code.size (place .accept code).2
  unfold emitRounds at hq ⊢
  generalize body code.size (place .accept code).2 = r at hround htracks hq ⊢
  have hlt : code.size < r.2.size := by
    have := hround.size_le
    rw [Appended.size_place] at this
    omega
  have hloop := @Emitted.loop code next _ _ _ policy hround
  have hcopies := emitted_copies hbody (fun _ => false) code.size (List.range min)
    (r.2.setIfInBounds code.size (loopSplit policy r.1 next))
  obtain ⟨hi, hinner⟩ := contains_of_patch hlt (hcopies.contains hq)
  rw [← Appended.size_place .accept code] at hinner
  have hq := hloop.contains_new hq
  rw [List.range_eq_range'] at hq ⊢
  refine (tracks_copies hbody h (fun _ => false) code.size _ 0 min hq).comp
    (tracks_loop hi (htracks hinner)) ?_
  rintro _ _ ⟨copies, hways, hlength, rfl⟩ ⟨rounds, hrounds, hmove, rfl⟩
  exact ⟨copies, rounds, hlength.resolve_right fun h => (nomatch h.2), hways, hrounds, hmove, rfl⟩

section

variable (q) (layout)

mutual

/-- Trails through the code of a pattern walk through the pattern. -/
theorem tracks_emit : ∀ (p : Pattern) (owed : Marks) (next : Nat) (code : Array Instr), p.Ascending →
    (∀ label ∈ p.labels, label ∈ layout.labels) →
      Contains q.code (emit layout p next code).2 code.size (emit layout p next code).2.size →
        Tracks q layout (p.Walk layout owed) (emit layout p next code).1 next
  | .symbols ranges, owed, next, code, _, _, hq =>
    tracks_symbols (getElem?_contains_place (Nat.le_refl _) hq) owed fun x hx => .symbols hx
  | .sequence items, owed, next, code, hp, hl, hq => tracks_emitSequence items owed next code hp hl hq
  | .select branches, owed, next, code, hp, hl, hq => tracks_emitSelect branches owed next code hp hl hq
  | .counted body counts, owed, next, code, hp, hl, hq => by
    have hcopies := tracks_copies (emitted_emit layout body)
      (fun next code hq => tracks_emit body owed next code hp.1 hl hq) (Pattern.hasCount counts) next code 0
      (counts.getLastD 0)
    rw [← List.range_eq_range'] at hcopies
    refine (hcopies hq).mono ?_
    rintro _ ⟨copies, hwalks, hlength, rfl⟩
    rw [Nat.zero_add] at hlength
    exact .counted ((Pattern.mem_counts_iff hp.2.1 hp.2.2).2 hlength) hwalks
  | .loop body min policy, owed, next, code, hp, hl, hq => by
    have htracks := tracks_rounds (emitted_emit layout body)
      (fun next code hq => tracks_emit body owed next code hp hl hq) policy min next code hq
    refine htracks.mono ?_
    rintro _ ⟨copies, rounds, hlength, hwalks, hrounds, hmove, rfl⟩
    subst hlength
    exact .loop hwalks hrounds hmove
  | .optional body, owed, next, code, hp, hl, hq => by
    have hi := getElem?_contains_place (emitted_emit layout body next code).size_le hq
    have htaken := tracks_emit body owed next code hp hl (contains_of_place hq)
    exact tracks_split hi (htaken.mono fun _ => .take) (.refl .skip next)
  | .group label body, owed, next, code, hp, hl, hq => by
    obtain ⟨hlabel, hl⟩ := List.forall_mem_cons.1 hl
    obtain ⟨g, hg⟩ := Option.isSome_iff_exists.1 (List.isSome_idxOf?.2 hlabel)
    have hindex : layout.labels.idxOf label = g := by
      rw [List.idxOf_eq_getD_idxOf?, hg, Option.getD_some]
    rw [emit] at hq ⊢
    simp only [hg] at hq ⊢
    have hclose := @emitted_pass next (Opens layout body.labels) (.closing g next) rfl rfl nofun nofun code
    have hinner := emitted_emit layout body (place (.closing g next) code).1 (place (.closing g next) code).2
    have hopening := getElem?_contains_place (Nat.le_trans hclose.size_le hinner.size_le) hq
    have hq := contains_of_place hq
    have hclosing := getElem?_contains_place (Nat.le_refl code.size) (hinner.contains hq)
    have hbody := tracks_emit body (owed ∪ .closing (layout.slotOf label) true) _ _ hp hl (hclose.contains_new hq)
    refine (tracks_group hindex hopening hbody hclosing body.nullable).mono ?_
    rintro _ ⟨es, hes, rfl⟩
    exact .group hlabel hes

theorem tracks_emitSequence : ∀ (items : List Pattern) (owed : Marks) (next : Nat) (code : Array Instr),
    Pattern.AllAscending items → (∀ label ∈ Pattern.allLabels items, label ∈ layout.labels) →
      Contains q.code (emitSequence layout items next code).2 code.size
        (emitSequence layout items next code).2.size →
          Tracks q layout (Pattern.Walk layout (.sequence items) owed) (emitSequence layout items next code).1 next
  | [], owed, next, code, _, _, _ => .refl .nil next
  | item :: rest, owed, next, code, hp, hl, hq => by
    have hl := List.forall_mem_append.1 hl
    have hrest := emitted_emitSequence layout rest next code
    have hitem := emitted_emit layout item (emitSequence layout rest next code).1
      (emitSequence layout rest next code).2
    exact (tracks_emit item _ _ _ hp.1 hl.1 (hrest.contains_new hq)).comp
      (tracks_emitSequence rest owed next code hp.2 hl.2 (hitem.contains hq)) fun _ _ => .cons

theorem tracks_emitSelect : ∀ (branches : List Pattern) (owed : Marks) (next : Nat) (code : Array Instr),
    Pattern.AllAscending branches → (∀ label ∈ Pattern.allLabels branches, label ∈ layout.labels) →
      Contains q.code (emitSelect layout branches next code).2 code.size
        (emitSelect layout branches next code).2.size →
          Tracks q layout (Pattern.Walk layout (.select branches) owed) (emitSelect layout branches next code).1 next
  | [], owed, next, code, _, _, hq =>
    tracks_symbols (getElem?_contains_place (Nat.le_refl _) hq) owed fun _ hx => absurd hx Bool.false_ne_true
  | [branch], owed, next, code, hp, hl, hq => by
    rw [Pattern.allLabels, Pattern.allLabels, List.append_nil] at hl
    exact (tracks_emit branch owed next code hp.1 hl hq).mono fun _ => .select (List.mem_singleton_self branch)
  | branch :: other :: rest, owed, next, code, hp, hl, hq => by
    have hl := List.forall_mem_append.1 hl
    have hrest := emitted_emitSelect layout (other :: rest) next code
    have hfirst := emitted_emit layout branch next (emitSelect layout (other :: rest) next code).2
    have hi := getElem?_contains_place (Nat.le_trans hrest.size_le hfirst.size_le) hq
    have hq := contains_of_place hq
    refine tracks_split hi ?_ ?_
    · exact (tracks_emit branch owed next _ hp.1 hl.1 (hrest.contains_new hq)).mono fun _ =>
        .select List.mem_cons_self
    · refine (tracks_emitSelect (other :: rest) owed next code hp.2 hl.2 (hfirst.contains hq)).mono ?_
      intro es hwalk
      cases hwalk with
      | select hb hwalk => exact .select (List.mem_cons_of_mem branch hb) hwalk

end

end

/-- What a program of a pattern captures is performed on a walk through the pattern. -/
theorem exists_walk_of_captures? {p : Pattern} {d : Captured} (hp : p.Ascending)
    (hl : ∀ label ∈ p.labels, label ∈ layout.labels) (h : (ofPattern p layout).captures? pos w = some d) :
    ∃ es, p.Walk layout ∅ es ∧ word es = w ∧
      d = ⟨⟨pos, pos + w.length⟩, (perform layout pos (List.replicate layout.size []) es).map List.reverse⟩ := by
  obtain ⟨found, htrail, rfl⟩ := exists_trail_captures? h
  have htracks := tracks_emit (ofPattern p layout) layout p ∅ 0 #[.accept] hp hl fun _ _ _ => rfl
  obtain ⟨es, entered, v, hes, rfl, -, htrail⟩ := htracks _ _ _ _ _ htrail
  have h0 := getD_code (ofPattern_code_zero p layout)
  cases htrail with
  | accept _ =>
    rw [List.append_nil]
    exact ⟨es, hes, rfl, rfl⟩
  | fork _ ht' _ =>
    rw [fork, h0] at ht'
    cases ht'
  | consume hc _ =>
    obtain ⟨_, _, hi, -, -⟩ := consume?_eq_some.1 hc
    cases h0.symm.trans hi

theorem exists_walk_captures? {p : Pattern} {d : Captured} (hp : p.Standard)
    (hl : ∀ label ∈ p.labels, label ∈ layout.labels) (h : (ofPattern p layout).captures? pos w = some d) :
    ∃ es, p.Walk layout ∅ es ∧ word es = w ∧
      d = ⟨⟨pos, pos + w.length⟩, (perform layout pos (List.replicate layout.size []) es).map List.reverse⟩ :=
  exists_walk_of_captures? (Pattern.ascending_of_standard p hp) hl h

end Program

end Polymatch
