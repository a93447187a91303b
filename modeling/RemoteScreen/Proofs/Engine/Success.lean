import RemoteScreen.Host.Console
import RemoteScreen.Library.Standard
import RemoteScreen.Proofs.Engine.Chain

/-!
# Proofs/Engine/Success — what it takes for an action to end well

A dispatch whose first link was executed ends well when some attempt has succeeded — or when the
link that was to stand in for the ones that failed is itself skipped: a skip ends the flight, and
ends it well.
-/

namespace RemoteScreen

variable {σ : Type} {h : Host σ} {env : Engine σ → Prop}

/-- Some attempt has succeeded. -/
def Succeeded (deeds : List Deed) : Prop := ∃ link x, .returned link x (.ok ()) ∈ deeds

/-- A link was executed. -/
def Executed (link : Dispatch) (deeds : List Deed) : Prop := ∃ verb, .executed link verb ∈ deeds

/-- The last thing that was done is to skip one of these links. -/
def EndsSkipping (links : List Dispatch) (deeds : List Deed) : Prop :=
  ∃ link ∈ links, ∃ reason, deeds.getLast? = some (.skipped link reason)

/-- Every result of the attempts is among the deeds. -/
theorem Execution.returned_mem_deeds {d : Dispatch} (x : Execution)
    {results : List (Except VerbError Unit)} {result} (hr : result ∈ results) :
    ∃ x', .returned d x' result ∈ x.deeds d results := by
  induction results generalizing x with
  | nil => simp at hr
  | cons first results ih =>
    rw [deeds]
    rcases List.mem_cons.1 hr with rfl | hr
    · exact ⟨x, by simp⟩
    · obtain ⟨x', hx⟩ := ih x.next hr
      exact ⟨x', by simp [hx]⟩

/-- The log of a chain tells the fate of its first link, then the rest. -/
theorem Log.deeds_cons (p : Dispatch × Fate) (log : Log) :
    Log.deeds (p :: log) = p.2.deeds p.1 ++ log.deeds :=
  List.flatMap_cons

/-- A link whose last attempt succeeds has a success among its deeds. -/
theorem Succeeded.of_tried (d : Dispatch) (x : Execution) (errs : List VerbError) :
    Succeeded (Log.deeds [(d, .tried x (errs.map .error ++ [.ok ()]))]) := by
  have hr : Except.ok () ∈ errs.map Except.error ++ [Except.ok ()] :=
    List.mem_append_right _ (List.mem_singleton_self _)
  obtain ⟨x', hx'⟩ := x.returned_mem_deeds (d := d) hr
  exact ⟨d, x', by simp [Log.deeds, Fate.deeds, hx']⟩

/-- Deeds end as the last of them do. -/
theorem Succeeded.or_endsSkipping_append {links : List Dispatch} (before : List Deed)
    {deeds : List Deed} (hd : Succeeded deeds ∨ EndsSkipping links deeds) :
    Succeeded (before ++ deeds) ∨ EndsSkipping links (before ++ deeds) := by
  rcases hd with ⟨link, x, hm⟩ | ⟨link, hl, reason, hlast⟩
  · exact .inl ⟨link, x, List.mem_append_right _ hm⟩
  · refine .inr ⟨link, hl, reason, ?_⟩
    rw [List.getLast?_append, hlast]
    rfl

namespace Chain

/-- **Links that end well**: one of them has succeeded, or the last one dispatched is skipped. -/
theorem ok {links log} (c : Chain env links log (.ok ())) :
    Succeeded log.deeds ∨ EndsSkipping links log.deeds := by
  generalize hr : Except.ok () = result at c
  induction c with
  | @skipped d rest reason => exact .inr ⟨d, List.mem_cons_self, reason, rfl⟩
  | unknown | failed => cases hr
  | succeeded => exact .inl (.of_tried _ _ _)
  | @handedOver d next rest e x errs err log result hx hn c ih =>
    rw [Log.deeds_cons]
    have hrest : Succeeded log.deeds ∨ EndsSkipping (d :: next :: rest) log.deeds :=
      (ih hr).imp_right fun ⟨link, hl, hlast⟩ => ⟨link, List.mem_cons_of_mem d hl, hlast⟩
    exact Succeeded.or_endsSkipping_append _ hrest

/-- If the first link was executed, it is one of the others that is skipped. -/
theorem ok_of_executed {d : Dispatch} {rest log} (c : Chain env (d :: rest) log (.ok ()))
    (hd : Executed d log.deeds) : Succeeded log.deeds ∨ EndsSkipping rest log.deeds := by
  cases c with
  | skipped =>
    obtain ⟨verb, hv⟩ := hd
    simp [Log.deeds, Fate.deeds] at hv
  | succeeded => exact .inl (.of_tried _ _ _)
  | @handedOver _ _ _ _ _ _ _ log _ hx hn c =>
    rw [Log.deeds_cons]
    exact Succeeded.or_endsSkipping_append _ c.ok

end Chain

namespace Flight

/-- **A dispatch whose first link was executed ends well only if an attempt has succeeded, or if
the last link dispatched is one that stands in for others and was skipped** — whatever goes on
between its waits. -/
theorem ofDispatch_ok (h : Host σ) (d : Dispatch) :
    (ofDispatch d).Lands h (fun _ => True) (fun deeds result => result = .ok () →
      (∀ first ∈ d.links.head?, Executed first deeds) →
      Succeeded deeds ∨ EndsSkipping d.links.tail deeds) [] := by
  obtain ⟨first, rest, hlinks⟩ := d.links_eq_cons
  refine Lands.imp ?_ (lands_chain kept_true d)
  rintro deeds result ⟨log, rfl, c⟩ rfl hexec
  rw [hlinks] at c hexec ⊢
  exact c.ok_of_executed (hexec first rfl)

/-- An action that fails for want of a screen to go to; the message that should tell of it is only
sent under a condition. -/
def unheard : Dispatch :=
  { action :=
      { type := "navigate"
        fallback := some
          { type := "log", condition := some { operator := "exists", field := some "sent" } } } }

/-- The chain whose fallback is skipped lands well without any success in it. -/
theorem run_unheard : ∃ ds e', Run Console.host 0 (.resting (.ofDispatch unheard))
      (.new .standard {} .empty []) ds (.landed (.ok ())) e'
    ∧ (∀ first ∈ unheard.links.head?, Executed first ds) ∧ ¬ Succeeded ds := by
  have hv : (Verb.builtins .standard).get? "navigate" = some Verb.navigate := rfl
  refine ⟨_, _, .move (.enter ?_) (.move (.pass ?_ ?_) (.move (.begin ?_ hv rfl)
    (.move (@Move.fail _ _ _ _ _ _ (.missingField "navigateTo") _ ?_) (.move (.enter ?_)
    (.move (.pass ?_ ?_) (.move (.refuse ?_) (.rest (waits_landed _)))))))), ?_, ?_⟩
  case refine_10 =>
    rintro first hf
    obtain rfl : _ = first := Option.some.inj hf
    exact ⟨_, by simp; rfl⟩
  case refine_11 => simp [Succeeded]
  all_goals decide +kernel

/-- **The dispatch ends well, and nothing has succeeded.** -/
theorem not_succeeded_unheard :
    ¬ (ofDispatch unheard).Lands Console.host (fun _ => True) (fun deeds result => result = .ok () →
      (∀ first ∈ unheard.links.head?, Executed first deeds) → Succeeded deeds) [] := by
  intro l
  obtain ⟨ds, e', r, hexec, hs⟩ := run_unheard
  cases l.run rfl (Nat.zero_le 0) trivial r with
  | landed hp => exact hs (hp rfl hexec)
  | waits hw => cases hw

end Flight

end RemoteScreen
