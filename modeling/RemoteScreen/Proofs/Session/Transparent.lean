import RemoteScreen.Library.Standard
import RemoteScreen.Proofs.Engine.Told
import RemoteScreen.Proofs.Render.Reads
import RemoteScreen.Session.Job

/-!
# Proofs/Session/Transparent — what shows does not depend on what is kept

A session renders one tree after the other with one memo, while its data is written to from all
sides.  The stamp of a scope is its revision, the text of its overlay and its sink; a revision tells
the data, a text the overlay, and so **a stamp tells the scope** (`Scopes.ofPast`).  Whatever
happens to a session, its memo stays sound (`Step.reliable`), and a tree shows **what it would
show with nothing kept** (`Course.render_eq`).
-/

namespace RemoteScreen

/-! ## Stamps -/

/-- Past scopes with one stamp are one scope. -/
theorem Scope.ofContext_injective {past : List Context} {now p q : Context}
    (h : Context.Past past now) (hp : p ∈ past) (hq : q ∈ past) {o o' : Option Json} {sink : Nat}
    (hstamp : (Scope.ofContext p o sink).stamp = (Scope.ofContext q o' sink).stamp) :
    Scope.ofContext p o sink = Scope.ofContext q o' sink := by
  simp only [ofContext, Stamp.revision.injEq, and_true] at hstamp
  obtain rfl := h.identifies p hp q hq hstamp.1
  have hover : o = o' := Option.map_injective (fun _ _ => Json.text_injective) hstamp.2
  rw [hover]

/-- The scopes over what there has been of some data. -/
def Scopes.ofPast {past : List Context} {now : Context} (h : Context.Past past now) : Scopes where
  mem scope := ∃ c ∈ past, ∃ overlay, scope = .ofContext c overlay Session.sink
  told := by
    rintro _ _ ⟨p, hp, o, rfl⟩ ⟨q, hq, o', rfl⟩ hstamp
    exact Scope.ofContext_injective h hp hq hstamp

/-- A memo is sound for data as it is now, and as it has been. -/
def Memo.Reliable (rules : RenderRules) (c : Context) (memo : Memo) : Prop :=
  ∃ past, ∃ h : Context.Past past c, memo.Sound rules (.ofPast h)

namespace Memo.Reliable

variable {rules : RenderRules} {c c' : Context} {memo : Memo}

theorem nil (rules : RenderRules) (c : Context) : Reliable rules c [] :=
  ⟨[c], .start c, Memo.sound_nil⟩

/-- Writing to the data outdates no entry. -/
theorem writes (hm : Reliable rules c memo) (hw : Context.Writes c c') :
    Reliable rules c' memo := by
  obtain ⟨past, h, hs⟩ := hm
  obtain ⟨past', hsub, h'⟩ := h.writes hw
  refine ⟨past', h', hs.mono ?_⟩
  rintro scope ⟨p, hp, o, rfl⟩
  exact ⟨p, hsub p hp, o, rfl⟩

/-- **A tree shows what it shows with nothing kept, and the memo stays reliable.** -/
theorem renderTree {s : RenderState} (hm : Reliable rules c s.memo) (overlay : Option Json)
    {tree : List Node} (ht : Number.negZero ∉ Node.allNumbers tree) :
    let scope := Scope.ofContext c overlay Session.sink
    (RemoteScreen.renderTree rules scope tree s).1 = elementsAt rules scope 0 tree
      ∧ Reliable rules c (RemoteScreen.renderTree rules scope tree s).2.memo := by
  obtain ⟨past, h, hs⟩ := hm
  have hscope : (Scopes.ofPast h).mem (.ofContext c overlay Session.sink) :=
    ⟨c, h.now, overlay, rfl⟩
  have hr := renderTree_agrees hscope ht hs
  exact ⟨hr.outcome, past, h, hr.sound⟩

end Memo.Reliable

namespace Session

variable {σ : Type}

/-! ## Rendering -/

/-- What is rendered, and what rendering carries along. -/
def rendering (s : Session σ) (tree : List Node) (overlay : Option Json) :
    Rendering (List Element) :=
  renderTree s.rules (.ofContext s.engine.context overlay sink) tree { memo := s.memo }

theorem render_of_clear {s : Session σ} (hb : s.boundary = .clear) (tree : List Node)
    (overlay : Option Json) :
    (s.render tree overlay).1 = (Boundary.contain (s.rendering tree overlay).1).output
      ∧ (s.render tree overlay).2.memo = (s.rendering tree overlay).2.memo
      ∧ (s.render tree overlay).2.boundary
        = (Boundary.contain (s.rendering tree overlay).1).boundary := by
  rw [render, hb]
  simp only [Boundary.guard, rendering]
  split <;> exact ⟨rfl, rfl, rfl⟩

theorem render_of_tripped {s : Session σ} {message : String} (hb : s.boundary = .tripped message)
    (tree : List Node) (overlay : Option Json) :
    (s.render tree overlay).1 = .fallback (Boundary.fallback message)
      ∧ (s.render tree overlay).2.memo = s.memo := by
  rw [render, hb]
  exact ⟨rfl, rfl⟩

/-- Rendering changes neither the data nor the rules. -/
theorem render_frame (s : Session σ) (tree : List Node) (overlay : Option Json) :
    (s.render tree overlay).2.engine.context = s.engine.context
      ∧ (s.render tree overlay).2.rules = s.rules := by
  rw [render]
  split
  simp only []
  split <;> exact ⟨rfl, rfl⟩

/-! ## What can happen -/

/-- **What can happen to a session**: it renders any tree without a negative zero under any overlay,
its data is written to, its boundary is reset, its memo is dropped, or its engine goes on in some
way that changes the data only by writes, and not what patterns mean. -/
inductive Step : Session σ → Session σ → Prop where
  | render (tree : List Node) (overlay : Option Json) (ht : Number.negZero ∉ Node.allNumbers tree)
      {s} : Step s (s.render tree overlay).2
  | write {s : Session σ} {c} (w : Context.Write s.engine.context c) :
      Step s (s.onEngine (·.onContext fun _ => c))
  | resetBoundary {s} : Step s s.resetBoundary
  | clearCache {s} : Step s s.clearCache
  | act {s : Session σ} {engine} (hw : Context.Writes s.engine.context engine.context)
      (hp : engine.patterns = s.engine.patterns) : Step s { s with engine }

/-- What happens to a session in the course of time. -/
inductive Course : Session σ → Session σ → Prop where
  | refl {s} : Course s s
  | tail {s s' s''} (c : Course s s') (t : Step s' s'') : Course s s''

theorem Step.rules {s s' : Session σ} (t : Step s s') : s'.rules = s.rules := by
  cases t with
  | render tree overlay => exact (s.render_frame tree overlay).2
  | write | resetBoundary | clearCache => rfl
  | act _ hp => exact congrArg (RenderRules.mk s.primitives s.renderer) hp

/-- **A step of a session leaves reliable what it remembers.** -/
theorem Step.reliable {s s' : Session σ} (t : Step s s')
    (hm : s.memo.Reliable s.rules s.engine.context) :
    s'.memo.Reliable s'.rules s'.engine.context := by
  rw [t.rules]
  cases t with
  | render tree overlay ht =>
    rw [(s.render_frame tree overlay).1]
    cases hb : s.boundary with
    | clear =>
      rw [(render_of_clear hb tree overlay).2.1]
      exact (Memo.Reliable.renderTree (s := { memo := s.memo }) hm overlay ht).2
    | tripped message =>
      rw [(render_of_tripped hb tree overlay).2]
      exact hm
  | write w => exact hm.writes w.writes
  | resetBoundary => exact hm
  | clearCache => exact .nil _ _
  | act hw _ => exact hm.writes hw

/-- So does a course. -/
theorem Course.reliable {s s' : Session σ} (c : Course s s')
    (hm : s.memo.Reliable s.rules s.engine.context) :
    s'.memo.Reliable s'.rules s'.engine.context := by
  induction c with
  | refl => exact hm
  | tail _ t ih => exact t.reliable ih

/-- **What shows does not depend on what is kept.**  Whatever has happened to a session that began
with nothing kept: while the boundary is clear, a tree without a negative zero shows what it shows
in a session that keeps nothing, works by the same rules and has the same data: the same elements
with the same handlers, or the same failure, which shows in the same way. -/
theorem Course.render_eq {s₀ s : Session σ} (hm : s₀.memo = []) (c : Course s₀ s)
    (hb : s.boundary = .clear) {tree : List Node} (ht : Number.negZero ∉ Node.allNumbers tree)
    (overlay : Option Json) {τ : Type} {fresh : Session τ} (hfm : fresh.memo = [])
    (hfb : fresh.boundary = .clear) (hrules : fresh.rules = s.rules)
    (hdata : fresh.engine.context.data = s.engine.context.data) :
    (s.rendering tree overlay).1 = (fresh.rendering tree overlay).1
      ∧ (s.render tree overlay).1 = (fresh.render tree overlay).1
      ∧ (s.render tree overlay).2.boundary = (fresh.render tree overlay).2.boundary := by
  have hkept := c.reliable (by rw [hm]; exact .nil _ _)
  have hnone : fresh.memo.Reliable fresh.rules fresh.engine.context := by
    rw [hfm]
    exact .nil _ _
  have heq : (s.rendering tree overlay).1 = (fresh.rendering tree overlay).1 := by
    rw [rendering, rendering, (hkept.renderTree (s := { memo := s.memo }) overlay ht).1,
      (hnone.renderTree (s := { memo := fresh.memo }) overlay ht).1, hrules]
    refine elementsAt_congr ?_ ?_ 0 tree
    · simp only [Scope.ofContext, Context.snapshot, hdata]
    · rfl
  obtain ⟨hout, -, hbound⟩ := render_of_clear hb tree overlay
  obtain ⟨hfout, -, hfbound⟩ := render_of_clear hfb tree overlay
  exact ⟨heq, by rw [hout, hfout, heq], by rw [hbound, hfbound, heq]⟩

/-- A greeting by name. -/
def greeting : List Node :=
  [(Node.new "Text").withProp "text" (.str "Hello \x7b\x7bname\x7d\x7d")]

/-- A session that has greeted nobody, and has then been told a name. -/
def named : Session Unit :=
  ((Session.new .standard {} .empty ()).render greeting none).2.onEngine
    (·.onContext fun _ => Context.empty.set "name" (.str "Ann"))

/-- What was kept of the first greeting is not what shows. -/
theorem render_eq_named :
    named.memo.length = 1
      ∧ (named.render greeting none).1.elements.map Element.text = [some "Hello Ann"]
      ∧ (named.render greeting none).1
        = (({ named with memo := [] } : Session Unit).render greeting none).1 := by
  have hc : Course (Session.new .standard {} .empty ()) named :=
    .tail (.tail .refl (.render greeting none (by decide))) (.write (.set "name" (.str "Ann")))
  have hfresh : ({ named with memo := [] } : Session Unit).memo = [] := rfl
  refine ⟨by decide +kernel, by decide +kernel, ?_⟩
  exact (hc.render_eq rfl rfl (by decide) none hfresh rfl rfl rfl).2.1

/-! ## Work on a session -/

/-- The engine acts, and nothing else goes on. -/
def Acts (s s' : Session σ) : Prop :=
  ∃ engine, s' = { s with engine } ∧ s.engine.Acts engine

variable (h : Host σ) (now : Nat)

theorem Acts.step {s s' : Session σ} (a : Acts s s') : Step s s' := by
  obtain ⟨engine, rfl, ha⟩ := a
  exact .act ha.context ha.patterns

theorem Acts.trans {s s' s'' : Session σ} (a : Acts s s') (a' : Acts s' s'') : Acts s s'' := by
  obtain ⟨engine, rfl, ha⟩ := a
  obtain ⟨engine', rfl, ha'⟩ := a'
  exact ⟨engine', rfl, ha.trans ha'⟩

theorem acts_refl (s : Session σ) : Acts s s := ⟨s.engine, rfl, .refl _⟩

theorem acts_note (s : Session σ) (r : Record) : Acts s (s.note r) :=
  ⟨_, rfl, (s.engine.told_note r).acts⟩

theorem acts_poll (s : Session σ) (f : Flight) :
    Acts s { s with engine := (f.poll h now s.engine).2 } :=
  ⟨_, rfl, f.poll_acts s.engine⟩

theorem acts_tell (s : Session σ) (door : Door) (result : Except ActionError Unit) :
    Acts s (s.tell door result) := by
  rw [tell.eq_def]
  split
  · exact acts_note s _
  · exact acts_refl s

theorem acts_beginDispatch (s : Session σ) (door : Door) (d : Dispatch) :
    Acts s (s.beginDispatch door d).2 := by
  rw [beginDispatch.eq_def]
  split
  · simp only []
    split <;> exact acts_note s _
  · exact acts_refl s

/-- Polling a flight of a job only acts. -/
theorem acts_pollFlight (door : Door) (heeded : Bool) (f : Flight) (rest : List Dispatch)
    (s : Session σ) : Acts s (pollFlight h now door heeded f rest s).2 := by
  induction rest generalizing f s with
  | nil =>
    have hpoll := acts_poll h now s f
    rw [pollFlight]
    split
    · next result engine heq =>
      rw [heq] at hpoll
      exact hpoll.trans (acts_tell _ door result)
    · next f' engine _ heq =>
      rw [heq] at hpoll
      exact hpoll
  | cons d rest ih =>
    have hpoll := acts_poll h now s f
    rw [pollFlight]
    split
    · next result engine heq =>
      rw [heq] at hpoll
      exact ((hpoll.trans (acts_tell _ door result)).trans (acts_beginDispatch _ door d)).trans
        (ih _ _)
    · next f' engine _ heq =>
      rw [heq] at hpoll
      exact hpoll

/-- **A job that goes on is one of the things that can happen.** -/
theorem step_pollJob (s : Session σ) (j : Job) : Step s (j.poll h now s).2 := by
  rw [Job.poll]
  split
  · exact (acts_pollFlight h now _ _ _ _ s).step
  · exact (acts_refl s).step

/-- So is one that is given up. -/
theorem step_cancelJob (s : Session σ) (j : Job) : Step s (j.cancel s) := by
  rw [Job.cancel]
  split
  · next f _ _ =>
    exact .act (f.cancel_acts s.engine).context (f.cancel_acts s.engine).patterns
  · exact (acts_refl s).step

end Session

end RemoteScreen
