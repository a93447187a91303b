import RemoteScreen.Proofs.Session.Transparent

/-!
# Proofs/Session/Contained — a boundary contains what fails behind it

Renderings are handed to a boundary one after the other.  In between it is reset, or someone presses
the retry button of a fallback, which may be one that showed long ago.  All fallbacks clear the one
boundary, so what a log of this says of it (`standing`) is **the first failure since it was last
cleared**, whoever cleared it.  `Course.contained` reads off the rest: what is run, what is
reported, and what shows.
-/

namespace RemoteScreen

/-- What the handler of an event makes of the boundary behind which it stands. -/
def Handler.onBoundary : Handler → Boundary → Boundary
  | resetBoundary, _ => .clear
  | inert, b | bound _, b => b

namespace Boundary

/-- What comes of a rendering that is handed to a boundary. -/
structure Showing where
  /-- What the rendering comes to if it is run. -/
  outcome : Except BuildFailure (List Element)
  ran : Bool
  /-- The failure that is reported. -/
  told : Option RenderError
  output : RenderOutput

/-- Hands in a rendering, which leaves a mark if it is run. -/
def handIn (b : Boundary) (outcome : Except BuildFailure (List Element)) : Showing × Boundary :=
  let (out, ran) := b.guard (fun _ => (outcome, true)) false
  (⟨outcome, ran, out.failure, out.output⟩, out.boundary)

/-- What pressing the retry button of an element sets off, if it has one. -/
def retry? (e : Element) : Option Handler :=
  (e.findByKey retryKey).bind (·.handler? "onPress")

theorem handIn_clear (outcome : Except BuildFailure (List Element)) :
    clear.handIn outcome
      = (⟨outcome, true, (contain outcome).failure, (contain outcome).output⟩,
         (contain outcome).boundary) := rfl

theorem handIn_tripped (message : String) (outcome : Except BuildFailure (List Element)) :
    (tripped message).handIn outcome
      = (⟨outcome, false, none, .fallback (fallback message)⟩, tripped message) := rfl

/-- A fallback shows the message it was made for, and its retry button clears the boundary. -/
theorem fallback_shows (message : String) :
    (fallback message).props.get? "error" = some (.str message)
      ∧ retry? (fallback message) = some .resetBoundary := ⟨rfl, rfl⟩

/-! ## Logs -/

/-- What is noted at a boundary. -/
inductive Entry where
  | shown (s : Showing)
  | cleared

/-- The renderings handed in since the boundary was last cleared. -/
def sinceCleared (log : List Entry) : List Showing :=
  log.foldl (fun since entry =>
    match entry with
    | .shown s => since ++ [s]
    | .cleared => []) []

/-- How a rendering failed, if it was run and did. -/
def Showing.failure? (s : Showing) : Option RenderError :=
  match s.ran, s.outcome with
  | true, .error failure => some failure.toError
  | _, _ => none

/-- What a log says of the boundary: the first failure since it was last cleared has tripped it. -/
def standing (log : List Entry) : Boundary :=
  match (sinceCleared log).findSome? Showing.failure? with
  | none => clear
  | some e => tripped e.message

theorem standing_cleared (log : List Entry) : standing (log ++ [.cleared]) = clear := by
  rw [standing, sinceCleared, List.foldl_append]
  rfl

/-- A failure counts only if none stands. -/
theorem standing_shown (log : List Entry) (s : Showing) :
    standing (log ++ [.shown s])
      = match standing log, s.failure? with
        | tripped message, _ => tripped message
        | clear, none => clear
        | clear, some e => tripped e.message := by
  have hsince : sinceCleared (log ++ [.shown s]) = sinceCleared log ++ [s] := by
    rw [sinceCleared, List.foldl_append]
    rfl
  rw [standing, standing, hsince, List.findSome?_append, List.findSome?_singleton]
  cases (sinceCleared log).findSome? Showing.failure? with
  | some e => rfl
  | none => cases s.failure? <;> rfl

/-- **What can happen at a boundary**: a rendering of any outcome is handed in, the boundary is
reset, or the retry button of a fallback that has shown is pressed. -/
inductive Course : List Entry → Boundary → Prop where
  | start : Course [] clear
  | render {log b} (c : Course log b) (outcome : Except BuildFailure (List Element)) :
      Course (log ++ [.shown (b.handIn outcome).1]) (b.handIn outcome).2
  | reset {log b} (c : Course log b) : Course (log ++ [.cleared]) clear
  | press {log b s e h} (c : Course log b) (hs : .shown s ∈ log) (he : s.output = .fallback e)
      (hh : retry? e = some h) : Course (log ++ [.cleared]) (h.onBoundary b)

/-- A showing does what a boundary promises, of which it is known how it stood before and how it
stands after. -/
structure Showing.Kept (s : Showing) (stood stands : Boundary) : Prop where
  ran_iff : s.ran = true ↔ stood = clear
  /-- Someone is told whenever the boundary is tripped, and only then. -/
  told_iff : s.told.isSome = true ↔ stood = clear ∧ stands ≠ clear
  told_eq : ∀ e, s.told = some e →
    stands = tripped e.message ∧ ∃ failure, s.outcome = .error failure ∧ e = failure.toError
  tree_iff : ∀ es, s.output = .tree es ↔ s.ran = true ∧ s.outcome = .ok es
  /-- All that shows besides a tree is a fallback with the message that stands, and a way back. -/
  fallback : ∀ e, s.output = .fallback e → ∃ message, stands = tripped message
    ∧ e.props.get? "error" = some (.str message) ∧ retry? e = some .resetBoundary

/-- What is handed in is kept in the log as it was handled. -/
theorem kept_handIn (b : Boundary) (outcome : Except BuildFailure (List Element)) :
    (b.handIn outcome).1.Kept b (b.handIn outcome).2 := by
  cases b with
  | tripped message =>
    rw [handIn_tripped]
    exact {
      ran_iff := by simp
      told_iff := by simp
      told_eq := nofun
      tree_iff := by simp
      fallback := by
        rintro _ ⟨⟩
        exact ⟨message, rfl, fallback_shows message⟩ }
  | clear =>
    rw [handIn_clear]
    cases outcome with
    | ok es =>
      exact {
        ran_iff := by simp
        told_iff := by simp [contain]
        told_eq := nofun
        tree_iff := by simp [contain]
        fallback := nofun }
    | error failure =>
      exact {
        ran_iff := by simp
        told_iff := by simp [contain]
        told_eq := by
          rintro _ ⟨⟩
          exact ⟨rfl, failure, rfl, rfl⟩
        tree_iff := by simp [contain]
        fallback := by
          rintro _ ⟨⟩
          exact ⟨_, rfl, fallback_shows _⟩ }

/-- **The state after handing in is what the log says.** -/
theorem standing_handIn {log : List Entry} {b : Boundary} (hb : b = standing log)
    (outcome : Except BuildFailure (List Element)) :
    (b.handIn outcome).2 = standing (log ++ [.shown (b.handIn outcome).1]) := by
  rw [standing_shown, ← hb]
  cases b with
  | tripped message => rfl
  | clear => cases outcome <;> rfl

namespace Course

variable {log : List Entry} {b : Boundary}

/-- What showed can be pressed to clear the boundary, whatever has happened since. -/
theorem retry_of_shown (c : Course log b) {s : Showing} (hs : .shown s ∈ log) {e : Element}
    (he : s.output = .fallback e) : retry? e = some .resetBoundary := by
  induction c with
  | start => cases hs
  | @render log b c outcome ih =>
    rcases List.mem_append.1 hs with hs | hs
    · exact ih hs
    · obtain rfl : s = (b.handIn outcome).1 := by simpa using hs
      exact ((kept_handIn b outcome).fallback e he).elim fun _ h => h.2.2
  | reset c ih =>
    rcases List.mem_append.1 hs with hs | hs
    · exact ih hs
    · simp at hs
  | press c _ _ _ ih =>
    rcases List.mem_append.1 hs with hs | hs
    · exact ih hs
    · simp at hs

/-- Along a course the boundary stands as the log says. -/
theorem eq_standing (c : Course log b) : b = standing log := by
  induction c with
  | start => rfl
  | render c outcome ih => exact standing_handIn ih outcome
  | reset c ih => exact (standing_cleared _).symm
  | press c hs he hh ih =>
    rw [standing_cleared]
    obtain rfl := Option.some.inj (hh.symm.trans (c.retry_of_shown hs he))
    rfl

/-- What is noted last is the entry looked for, or that one stands in the log before it. -/
private theorem last_or_before {log before after : List Entry} {last entry : Entry}
    (h : log ++ [last] = before ++ entry :: after) :
    (log = before ∧ last = entry) ∨ ∃ after', log = before ++ entry :: after' := by
  rcases List.eq_nil_or_concat after with rfl | ⟨after', x, rfl⟩
  · obtain ⟨hlog, hlast⟩ := List.append_inj' h rfl
    exact .inl ⟨hlog, List.singleton_inj.1 hlast⟩
  · rw [List.concat_eq_append, ← List.cons_append, ← List.append_assoc] at h
    exact .inr ⟨after', (List.append_inj' h rfl).1⟩

/-- A showing came of a rendering handed in where the log stood before it. -/
theorem exists_handIn {before after : List Entry} {s : Showing}
    (c : Course (before ++ .shown s :: after) b) :
    ∃ outcome, s = ((standing before).handIn outcome).1 := by
  generalize hlog : before ++ .shown s :: after = log at c
  induction c generalizing after with
  | start => simp at hlog
  | render c outcome ih =>
    rcases last_or_before hlog.symm with ⟨rfl, heq⟩ | ⟨after', hbefore⟩
    · cases heq
      exact ⟨outcome, by rw [← c.eq_standing]⟩
    · exact ih hbefore.symm
  | reset c ih | press c _ _ _ ih =>
    rcases last_or_before hlog.symm with ⟨-, heq⟩ | ⟨after', hbefore⟩
    · cases heq
    · exact ih hbefore.symm

/-- **A boundary contains what fails behind it.**  Whatever has been handed to a boundary, and
however it has been cleared in between, by resets and by retry buttons old and new: it stands as its
log says, tripped by the first failure since it was last cleared; and each showing in the log did
what a boundary promises, from how the boundary stood before it to how it stood after. -/
theorem contained (c : Course log b) :
    b = standing log
      ∧ ∀ before s after, log = before ++ .shown s :: after →
        s.Kept (standing before) (standing (before ++ [.shown s])) := by
  refine ⟨c.eq_standing, ?_⟩
  rintro before s after rfl
  obtain ⟨outcome, hs⟩ := c.exists_handIn
  have hstands := standing_handIn (rfl : standing before = standing before) outcome
  rw [← hs] at hstands
  have hkept := kept_handIn (standing before) outcome
  rwa [← hs, hstands] at hkept

/-! ### An old button -/

/-- A breakdown, and a rendering that is not tried after it. -/
def broken : List Entry :=
  [.shown (clear.handIn (.error (.breakdown none))).1,
   .shown ((tripped "Rendering failed: panic while rendering").handIn (.ok [])).1]

/-- The retry button is pressed, an icon fails, and the first button is pressed once more. -/
def recovered : List Entry :=
  broken ++ [.cleared]
    ++ [.shown (clear.handIn (.error (.error (.primitive "Icon" "no such glyph")))).1] ++ [.cleared]

theorem course_recovered : Course recovered clear := by
  have hbroken : Course broken (tripped "Rendering failed: panic while rendering") :=
    (start.render (.error (.breakdown none))).render (.ok [])
  have hpressed : Course (broken ++ [.cleared]) clear :=
    hbroken.press List.mem_cons_self rfl (fallback_shows _).2
  exact (hpressed.render (.error (.error (.primitive "Icon" "no such glyph")))).press
    List.mem_cons_self rfl (fallback_shows _).2

/-- The button of the breakdown clears what the icon has tripped. -/
theorem contained_recovered :
    standing broken = tripped "Rendering failed: panic while rendering"
      ∧ standing (recovered.take 4) = tripped "Primitive 'Icon' could not be built: no such glyph"
      ∧ clear = standing recovered
      ∧ ∀ s, recovered[1]? = some (.shown s) → s.ran = false ∧ s.told = none := by
  have hkept := course_recovered.contained
  refine ⟨rfl, rfl, hkept.1, ?_⟩
  rintro s ⟨⟩
  have hsecond := hkept.2 (broken.take 1) _ (recovered.drop 2) rfl
  have hstood : standing (broken.take 1) ≠ clear := nofun
  exact ⟨Bool.eq_false_iff.2 fun h => hstood (hsecond.ran_iff.1 h),
    Option.not_isSome_iff_eq_none.1 fun h => hstood (hsecond.told_iff.1 h).1⟩

end Course

end Boundary

/-! ## In a session -/

namespace Session

variable {σ : Type}

/-- A session hands its renderings to its boundary, and keeps a record of what is told. -/
theorem render_handIn (s : Session σ) (tree : List Node) (overlay : Option Json) :
    let handedIn := s.boundary.handIn (s.rendering tree overlay).1
    (s.render tree overlay).1 = handedIn.1.output
      ∧ (s.render tree overlay).2.boundary = handedIn.2
      ∧ ∃ built : List (String × Option String),
        (s.render tree overlay).2.engine.journal
          = s.engine.journal ++ built.map (fun b => .built b.1 b.2)
            ++ handedIn.1.told.toList.map .renderFailed := by
  rw [render]
  cases s.boundary with
  | tripped message =>
    exact ⟨rfl, rfl, [], by simp [Boundary.guard, Boundary.handIn_tripped, absorb]⟩
  | clear =>
    rw [Boundary.handIn_clear]
    simp only [Boundary.guard, rendering]
    split
    · next e heq => exact ⟨rfl, rfl, (s.rendering tree overlay).2.built, by rw [heq]; rfl⟩
    · next heq =>
      exact ⟨rfl, rfl, (s.rendering tree overlay).2.built, by rw [heq]; simp [absorb, rendering]⟩

/-- A handler that comes from a boundary clears it, and no other touches it. -/
theorem boundary_beginHandler (s : Session σ) (handler : Handler) (value : Option Json) :
    (s.beginHandler handler value).2.boundary = handler.onBoundary s.boundary := by
  have hjob : ∀ (s : Session σ) (heeded : Bool) (ds : List Dispatch),
      (s.beginJob .session heeded ds).2.boundary = s.boundary := by
    intro s heeded ds
    cases ds with
    | nil => rfl
    | cons d ds =>
      obtain ⟨engine, heq, -⟩ := s.acts_beginDispatch .session d
      rw [beginJob, heq]
  cases handler with
  | inert => rfl
  | resetBoundary => rfl
  | bound b => exact hjob s _ _

end Session

end RemoteScreen
