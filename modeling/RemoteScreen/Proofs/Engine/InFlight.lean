import RemoteScreen.Host.Console
import RemoteScreen.Library.Standard
import RemoteScreen.Proofs.Engine.Fleet

/-!
# Proofs/Engine/InFlight — the markers are those of the links in flight

A link marks its key when no duplicate is in flight, and takes the marker back on every way out of
it.  So at every wait the markers are exactly the keys of the links in flight, each once
(`Tracked`): a move marks the link it lets in, unmarks the one it ends, and otherwise leaves both
alone (`Move.marking`).
-/

namespace RemoteScreen

variable {σ : Type} {h : Host σ} {now : Nat}

/-- The key of the link that is in flight. -/
def Flight.key? (f : Flight) : Option String := f.link?.map Dispatch.key

/-- The keys of the links in flight. -/
def Fleet.keys (s : Fleet σ) : List String := s.flights.filterMap Flight.key?

namespace Stage

/-- The link that is in flight. -/
def link? : Stage → Option Dispatch
  | resting f => f.link?
  | admitted d _ | ready d _ | running d _ _ _ => some d

/-- Its key. -/
def key? (s : Stage) : Option String := s.link?.map Dispatch.key

@[simp] theorem key?_ended (r : Except ActionError Unit) : (ended r).key? = none := rfl

/-- A flight whose link has failed for good is in flight with no key, whatever comes next. -/
@[simp] theorem key?_afterFailure (rest : List Dispatch) (err : VerbError) :
    (afterFailure rest err).key? = none := by
  cases rest <;> rfl

end Stage

/-! ## What leaves the markers alone -/

namespace Engine

@[simp] theorem inFlight_skip (e : Engine σ) (d : Dispatch) (reason : SkipReason) :
    (e.skip d reason).inFlight = e.inFlight := (told_skip e d reason).inFlight

@[simp] theorem inFlight_counted (e : Engine σ) (d : Dispatch) :
    (e.counted now d).inFlight = e.inFlight := rfl

@[simp] theorem inFlight_retried (e : Engine σ) (d : Dispatch) (x : Execution) :
    (e.retried d x).inFlight = e.inFlight := (told_retried e d x).inFlight

@[simp] theorem inFlight_begun (e : Engine σ) (d : Dispatch) (verb : Verb) :
    (e.begun h now d verb).2.inFlight = e.inFlight := (told_begun e d verb).inFlight

@[simp] theorem inFlight_mark (e : Engine σ) (d : Dispatch) :
    (e.mark d).inFlight = d.key :: e.inFlight := rfl

/-- Unmarking takes every marker with the key away. -/
@[simp] theorem inFlight_unmark (e : Engine σ) (d : Dispatch) :
    (e.unmark d).inFlight = e.inFlight.filter (· ≠ d.key) := rfl

/-- **However an execution ends, its marker goes and no other.** -/
@[simp] theorem inFlight_settle (e : Engine σ) (d : Dispatch) (x : Execution)
    (result : Except VerbError Unit) :
    (settle h now d x result e).2.inFlight = e.inFlight.filter (· ≠ d.key) := by
  obtain ⟨e', ht, he⟩ := settle_eq_unmark h now e d x result
  rw [he, inFlight_unmark, ht.inFlight]

theorem isMarked_iff {e : Engine σ} {d : Dispatch} : e.isMarked d = true ↔ d.key ∈ e.inFlight :=
  List.contains_iff_mem

end Engine

/-! ## Move by move -/

/-- What a move does to the markers, and to the link in flight. -/
inductive Marking (s s' : Stage) (ks ks' : List String) : Prop where
  | kept (hs : s'.key? = s.key?) (hk : ks' = ks)
  | marked (k : String) (hs : s.key? = none) (hs' : s'.key? = some k) (hk : k ∉ ks)
      (hk' : ks' = k :: ks)
  | unmarked (k : String) (hs : s.key? = some k) (hs' : s'.key? = none)
      (hk' : ks' = ks.filter (· ≠ k))

/-- **A move changes the markers with the key of its flight.** -/
theorem Move.marking {s e ds s' e'} (m : Move h now s e ds s' e') :
    Marking s s' e.inFlight e'.inFlight := by
  cases m with
  | nothing => exact .kept rfl rfl
  | duplicate => exact .kept rfl (by simp)
  | @enter d rest _ hm =>
    refine .marked d.key rfl rfl ?_ rfl
    rw [← Engine.isMarked_iff, hm]
    exact Bool.false_ne_true
  | throttle => exact .unmarked _ rfl rfl (by simp)
  | pass | debounce | wake => exact .kept rfl rfl
  | refuse => exact .unmarked _ rfl rfl (by simp)
  | unknown => exact .unmarked _ rfl rfl rfl
  | begin _ _ hb =>
    exact .kept rfl ((congrArg (·.2.inFlight) hb).symm.trans (Engine.inFlight_begun e _ _))
  | look | write | call | await | answer | again => exact .kept rfl rfl
  | succeed => exact .unmarked _ rfl rfl (by simp)
  | retry | backOff => exact .kept rfl (by simp)
  | fail => exact .unmarked _ rfl (by simp) (by simp)

/-- The markers are the key of the link in flight, if there is one, and the given others, each
once. -/
structure Tracked (key : Option String) (others ks : List String) : Prop where
  perm : ks.Perm (key.toList ++ others)
  nodup : ks.Nodup

/-- Without the key of the link in flight the others are left. -/
theorem Tracked.filter {k : String} {others ks : List String} (t : Tracked (some k) others ks) :
    Tracked none others (ks.filter (· ≠ k)) := by
  have hnd : (k :: others).Nodup := t.perm.nodup_iff.1 t.nodup
  have hk : k ∉ others := (List.nodup_cons.1 hnd).1
  have hself : (k :: others).filter (· ≠ k) = others := by
    rw [List.filter_cons_of_neg (by simp)]
    exact List.filter_eq_self.2 fun l hl => by simpa using fun h : l = k => hk (h ▸ hl)
  refine ⟨?_, t.nodup.filter _⟩
  rw [Option.toList_none, List.nil_append, ← hself]
  exact t.perm.filter _

/-- A move keeps the markers tracked, whatever else is in flight. -/
theorem Marking.tracked {s s' ks ks' others} (m : Marking s s' ks ks')
    (t : Tracked s.key? others ks) : Tracked s'.key? others ks' := by
  cases m with
  | kept hs hk =>
    rw [hs, hk]
    exact t
  | marked k hs hs' hk hk' =>
    rw [hs] at t
    rw [hs', hk']
    exact ⟨t.perm.cons k, List.nodup_cons.2 ⟨hk, t.nodup⟩⟩
  | unmarked k hs hs' hk' =>
    rw [hs] at t
    rw [hs', hk']
    exact t.filter

/-- So does a run of moves. -/
theorem Run.tracked {s e ds f e'} {others : List String} (r : Run h now s e ds f e')
    (t : Tracked s.key? others e.inFlight) : Tracked f.key? others e'.inFlight := by
  induction r with
  | rest _ => exact t
  | move m _ ih => exact ih (m.marking.tracked t)

/-- A link that is skipped as a duplicate leaves the marker it has met, and lands. -/
theorem Run.of_skipped {s e ds f e'} (r : Run h now s e ds f e') {d : Dispatch}
    (hd : .skipped d .alreadyPending ∈ ds) : d.key ∈ e'.inFlight ∧ f = .landed (.ok ()) := by
  induction r with
  | rest _ => simp at hd
  | @move s e ds s' e' ds' f e'' m r ih =>
    rcases List.mem_append.1 hd with hd | hd
    · cases m with
      | duplicate hm =>
        obtain rfl : d = _ := by simpa using hd
        cases r with
        | rest _ =>
          rw [Engine.inFlight_skip]
          exact ⟨Engine.isMarked_iff.1 hm, rfl⟩
        | move m _ => exact absurd (Flight.waits_landed _) m.not_waits
      | _ => simp at hd
    · exact ih hd

/-! ## Flight by flight -/

/-- Giving a flight up takes back the marker of the link it is at. -/
theorem Tracked.cancel {f : Flight} {e : Engine σ} {others : List String}
    (t : Tracked f.key? others e.inFlight) : Tracked none others (f.cancel e).inFlight := by
  rw [Flight.cancel]
  rw [Flight.key?] at t
  split
  · next d hd =>
    rw [hd] at t
    exact t.filter
  · next hd =>
    rw [hd] at t
    exact t

namespace Fleet

/-- The keys of all flights are, in some order, those of one flight and of the others. -/
theorem keys_perm {flights before after : List Flight} {f : Flight}
    (hf : flights = before ++ f :: after) :
    (flights.filterMap Flight.key?).Perm
      (f.key?.toList ++ (before ++ after).filterMap Flight.key?) := by
  subst hf
  rw [List.filterMap_append, List.filterMap_append]
  cases hk : f.key? with
  | none => simp [hk]
  | some k => simp [hk]

/-- The markers are the keys of the links in flight, each once. -/
structure Marked (s : Fleet σ) : Prop where
  perm : s.engine.inFlight.Perm s.keys
  nodup : s.engine.inFlight.Nodup

/-- In a fleet with its markers exact, each flight is tracked beside the others. -/
theorem Marked.tracked {s : Fleet σ} (hs : s.Marked) {before f after}
    (hf : s.flights = before ++ f :: after) :
    Tracked f.key? ((before ++ after).filterMap Flight.key?) s.engine.inFlight :=
  ⟨hs.perm.trans (keys_perm hf), hs.nodup⟩

/-- **A step of the fleet keeps the markers exact.** -/
theorem Step.marked {s s' : Fleet σ} {ds} (t : Step h s ds s') (hs : s.Marked) : s'.Marked := by
  cases t with
  | launch d =>
    refine ⟨?_, hs.nodup⟩
    rw [keys, List.filterMap_append]
    exact hs.perm.trans (.of_eq (List.append_nil _).symm)
  | poll hf r =>
    have t := r.tracked (hs.tracked hf)
    exact ⟨t.perm.trans (keys_perm rfl).symm, t.nodup⟩
  | @cancel _ before f after hf =>
    have t := (hs.tracked hf).cancel
    exact ⟨t.perm, t.nodup⟩
  | pass n => exact ⟨hs.perm, hs.nodup⟩
  | aside he => exact ⟨he.inFlight ▸ hs.perm, he.inFlight ▸ hs.nodup⟩

/-- Along a course they stay exact. -/
theorem Course.marked {s s' : Fleet σ} {ds} (c : Course h s ds s') (hs : s.Marked) :
    s'.Marked := by
  induction c with
  | refl => exact hs
  | tail _ t ih => exact t.marked ih

/-- No two flights are at links with one key. -/
theorem Marked.pairwise {s : Fleet σ} (hs : s.Marked) :
    s.flights.Pairwise fun f g => ∀ k, f.key? = some k → g.key? ≠ some k := by
  have hnd : s.keys.Nodup := hs.perm.nodup_iff.1 hs.nodup
  refine (List.pairwise_filterMap.1 hnd).imp fun hfg k hf hg => ?_
  exact hfg k hf k hg rfl

/-- A flight that is skipped as a duplicate has met the marker of another one, and leaves it. -/
theorem Marked.of_skipped {s : Fleet σ} (hs : s.Marked) {before f after ds f' e'}
    (hf : s.flights = before ++ f :: after) (r : Run h s.clock (.resting f) s.engine ds f' e')
    {d : Dispatch} (hd : .skipped d .alreadyPending ∈ ds) :
    d.key ∈ e'.inFlight ∧ ∃ g ∈ before ++ after, g.key? = some d.key := by
  obtain ⟨hk, rfl⟩ := r.of_skipped hd
  have t := r.tracked (hs.tracked hf)
  obtain ⟨g, hg, hgk⟩ := List.mem_filterMap.1 (t.perm.mem_iff.1 hk)
  exact ⟨hk, g, hg, hgk⟩

/-- **The markers are exactly the links in flight.**  Whatever happens to an engine and its flights,
short of its memory being cleared, at every wait: the markers are the keys of the links in flight,
each once; no two flights are at links with one key; a flight that is then skipped as a duplicate
leaves the marker it has met, which is that of another flight; and when no link is in flight there
is no marker. -/
theorem Course.inFlight_exact {e : Engine σ} (he : e.inFlight = []) {n ds} {s : Fleet σ}
    (c : Course h ⟨e, [], n⟩ ds s) :
    (s.engine.inFlight.Perm s.keys ∧ s.engine.inFlight.Nodup)
      ∧ (s.flights.Pairwise fun f g => ∀ k, f.key? = some k → g.key? ≠ some k)
      ∧ (∀ before f after ds f' e', s.flights = before ++ f :: after →
          Run h s.clock (.resting f) s.engine ds f' e' →
          ∀ d, .skipped d .alreadyPending ∈ ds →
            d.key ∈ e'.inFlight ∧ ∃ g ∈ before ++ after, g.key? = some d.key)
      ∧ ((∀ f ∈ s.flights, f.link? = none) → s.engine.inFlight = []) := by
  have h₀ : Marked ⟨e, [], n⟩ := ⟨.of_eq he, he ▸ .nil⟩
  have hs := c.marked h₀
  refine ⟨⟨hs.perm, hs.nodup⟩, hs.pairwise, ?_, ?_⟩
  · exact fun before f after ds f' e' hf r d hd => hs.of_skipped hf r hd
  · intro hnone
    have hkeys : s.keys = [] := by
      refine List.filterMap_eq_nil_iff.2 fun f hf => ?_
      rw [Flight.key?, hnone f hf]
      rfl
    exact (hkeys ▸ hs.perm).eq_nil

/-- A press of a button twice that writes to the log, after a while. -/
def pressedTwice : Fleet Store :=
  let d : Dispatch := { action := { type := "log", debounce := some 50 } }
  ⟨.new .standard {} .empty [], [.ofDispatch d, .ofDispatch d], 0⟩

/-- With a button pressed twice the log stands marked once, and that is what is in flight. -/
theorem inFlight_exact_pressedTwice :
    ∃ ds s, Course Console.host ⟨.new .standard {} .empty [], [], 0⟩ ds s
      ∧ s.engine.inFlight = ["log|\x7b\x7d|"] ∧ s.engine.inFlight.Perm s.keys := by
  have c : Course Console.host ⟨.new .standard {} .empty [], [], 0⟩ [] pressedTwice :=
    .tail (.tail .refl (.launch _)) (.launch _)
  obtain ⟨ds, t⟩ := exists_poll (h := Console.host)
    (show pressedTwice.flights = [] ++ _ :: _ from rfl)
  refine ⟨ds, _, .tail c t, by decide +kernel, ?_⟩
  exact (Course.inFlight_exact rfl (.tail c t)).1.1

end Fleet

end RemoteScreen
