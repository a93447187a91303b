import RemoteScreen.Library.Standard
import RemoteScreen.Proofs.Engine.Snapshot
import RemoteScreen.Proofs.Path.Write
import RemoteScreen.Proofs.Template.Fixed

/-!
# Proofs/Engine/Stored — results that are stored, whichever is there first

    f waits ──reply──▸ write p v ──▸ landed            · ──p v──▸ · ──q w──▸ ·
    g waits ──reply──▸ write q w ──▸ landed            · ──q w──▸ · ──p v──▸ ·

`apiCall` and `storage` make one call, and with `storeAs` they write what the reply brings, and
nothing else (`Fetching.of_reaches`).  A flight that is replied so, at once or after a wait, lands
with that one write to the data (`Flight.Fetches.poll`).  So however many of them are under way,
**the data they leave does not depend on which of them is replied first**, if no two write at paths
that lead on from each other (`stored_in_any_order`).
-/

namespace RemoteScreen

/-! ## What is fetched -/

/-- The verb fetches: an answer from an address, however addresses are read, or an entry of the
store. -/
def Verb.Fetches (verb : Verb) : Prop := (∃ url?, verb = apiCall url?) ∨ verb = storage

/-- The value that a reply brings: the body of an answer that counts, or an entry of the store. -/
def Call.brings? : (c : Call) → c.Reply → Option Json
  | .send _, .ok ⟨status, .ok body⟩ =>
    if status < 200 || 299 < status then none else some (Verb.valueOfBody body)
  | .storeGet _, .ok entry => some (entry.getD .null)
  | _, _ => none

namespace Script

/-- What is left of a script makes no calls. -/
def Silent : Script → Prop
  | done _ => True
  | look next => ∀ data, (next data).Silent
  | write _ _ next => next.Silent
  | call _ _ => False

/-- A script that uses the value of a reply is silent if all that may follow is. -/
theorem silent_withReply {α : Type} {next : α → Script} (h : ∀ a, (next a).Silent)
    (reply : Except HostError α) : (withReply next reply).Silent := by
  cases reply with
  | ok a => exact h a
  | error err => exact trivial

theorem silent_asReplied (reply : Except HostError Unit) : (asReplied reply).Silent := by
  cases reply <;> exact trivial

/-- What is left of a silent script is silent. -/
theorem Silent.reaches {s s' : Script} (h : s.Silent) (r : s.Reaches s') : s'.Silent := by
  induction r with
  | refl => exact h
  | look _ data ih => exact ih data
  | write _ ih => exact ih
  | call _ _ ih => exact ih.elim

/-- **A script that makes one call waits for no other.** -/
theorem Reaches.of_call {c₀ : Call} {next₀ : c₀.Reply → Script}
    (hnext : ∀ reply, (next₀ reply).Silent) {s : Script} (r : (Script.call c₀ next₀).Reaches s) :
    s = .call c₀ next₀ ∨ s.Silent := by
  induction r with
  | refl => exact .inl rfl
  | look _ data ih => exact .inr (ih.elim nofun fun h => h data)
  | write _ ih => exact .inr (ih.elim nofun id)
  | call _ reply ih =>
    rcases ih with heq | h
    · cases heq
      exact .inr (hnext reply)
    · exact h.elim

end Script

/-- A verb goes on from a call: with a value that a reply brings, it writes it to a path and ends
well. -/
def Fetching (path : String) (s : Script) : Prop :=
  ∀ c next reply v, s = .call c next → c.brings? reply = some v → next reply = .write path v .ok

namespace Fetching

open Script

variable {path : String} {i : VerbInput} {s : Script}

theorem of_silent (h : s.Silent) : Fetching path s := by
  intro c next reply v hs
  rw [hs] at h
  exact h.elim

/-- It is enough to look at the one call of a script. -/
theorem of_call {c : Call} {next : c.Reply → Script} (hsilent : ∀ reply, (next reply).Silent)
    (hwrites : ∀ reply v, c.brings? reply = some v → next reply = .write path v .ok)
    (r : (Script.call c next).Reaches s) : Fetching path s := by
  rcases r.of_call hsilent with rfl | h
  · intro _ _ reply v hs hv
    cases hs
    exact hwrites reply v hv
  · exact of_silent h

/-- **A request writes the body of an answer that counts.** -/
theorem of_apiCall {url? : String → Option Url} (hpath : i.optional "storeAs" = some path)
    (r : (Verb.apiCall url? i).Reaches s) : Fetching path s := by
  rw [Verb.apiCall, hpath] at r
  cases hrequest : Verb.requestOf url? i with
  | error err =>
    rw [hrequest] at r
    exact of_silent (Silent.reaches (s := .fail err) trivial r)
  | ok request =>
    rw [hrequest] at r
    refine of_call (fun reply => ?_) (fun reply v hv => ?_) r
    · split
      · exact trivial
      · split
        · exact trivial
        · dsimp only
          split <;> exact trivial
    · match reply, hv with
      | .ok ⟨status, .ok body⟩, hv =>
        rw [Call.brings?] at hv
        split at hv
        · cases hv
        · next hstatus =>
          cases hv
          dsimp only
          rw [if_neg hstatus]

/-- **The store is asked for an entry, and it is written.** -/
theorem of_storage (hpath : i.optional "storeAs" = some path) (r : (Verb.storage i).Reaches s) :
    Fetching path s := by
  rw [Verb.storage] at r
  generalize (do
    let operation ← i.required "operation"
    let key ← i.required "key"
    i.need .storage "storage"
    return (operation, key) : Except VerbError (String × String)) = checked at r
  cases checked with
  | error err => exact of_silent (Silent.reaches (s := .fail err) trivial r)
  | ok checked =>
    obtain ⟨operation, key⟩ := checked
    dsimp only [withValue] at r
    split at r
    · refine of_call (silent_withReply fun entry => ?_) (fun reply v hv => ?_) r
      · rw [Verb.storeAs, hpath]
        exact trivial
      · match reply, hv with
        | .ok entry, hv =>
          cases hv
          show Verb.storeAs i _ = _
          rw [Verb.storeAs, hpath]
    · exact of_call silent_asReplied (fun _ _ hv => by cases hv) r
    · exact of_call silent_asReplied (fun _ _ hv => by cases hv) r
    · exact of_silent (Silent.reaches (s := .fail _) trivial r)

/-- **What is left of either verb writes what a reply brings.** -/
theorem of_reaches {verb : Verb} (hverb : verb.Fetches)
    (hpath : i.optional "storeAs" = some path) (r : (verb i).Reaches s) : Fetching path s := by
  rcases hverb with ⟨_, rfl⟩ | rfl
  · exact of_apiCall hpath r
  · exact of_storage hpath r

end Fetching

/-! ## Flights that fetch -/

variable {σ : Type} {h : Host σ} {now : Nat}

namespace Engine

/-- Settling an attempt leaves the context as it is. -/
theorem context_settle (d : Dispatch) (x : Execution) (result : Except VerbError Unit)
    (e : Engine σ) : (settle h now d x result e).2.context = e.context := by
  obtain ⟨e', htold, heq⟩ := settle_eq_unmark h now e d x result
  rw [heq]
  exact htold.context

/-- An attempt goes on at once from a call that takes no time. -/
theorem tryOn_call_now {d : Dispatch} {x : Execution} {c : Call} {next : c.Reply → Script}
    {e : Engine σ} (hdelay : h.delay c e.host = 0) :
    tryOn h now d x (.call c next) e
      = tryOn h now d x (next (h.reply c e.host).1)
          ((e.note (.called c)).withHost (h.reply c e.host).2) := by
  rw [tryOn, runScript_call_now hdelay rfl, tryOn]

/-- An attempt that has come to its write ends well. -/
theorem follow_write (d : Dispatch) (rest : List Dispatch) (x : Execution) (path : String)
    (v : Json) (e : Engine σ) :
    follow h now d rest (tryOn h now d x (.write path v .ok) e)
      = (.landed (.ok ()), (settle h now d x (.ok ()) (e.onContext (·.set path v))).2) := by
  rw [tryOn, Script.ok, runScript, runScript]
  rfl

end Engine

/-- **A flight goes on with what it has fetched**, by `apiCall` or by `storage`, to store it at a
path: it has waited for the reply, and the wait is over; or it goes on to an attempt, and is replied
at once. -/
inductive Flight.Fetches (h : Host σ) (now : Nat) (e : Engine σ) :
    Flight → String → Json → Prop where
  | waited {d rest x c next wake path v}
      (hverb : x.verb.Fetches)
      (hcall : (x.verb x.input).Reaches (.call c next))
      (hpath : x.input.optional "storeAs" = some path) (hwake : wake ≤ now)
      (hv : c.brings? (h.reply c e.host).1 = some v) :
      Fetches h now e (.calling d rest x c next wake) path v
  | atOnce {f d rest x e₁ c next path v}
      (hverb : x.verb.Fetches)
      (hcall : x.verb x.input = .call c next)
      (hpath : x.input.optional "storeAs" = some path)
      (hpoll : f.poll h now e
        = Engine.follow h now d rest (Engine.tryOn h now d x (x.verb x.input) e₁))
      (hcontext : e₁.context = e.context) (hdelay : h.delay c e₁.host = 0)
      (hv : c.brings? (h.reply c e₁.host).1 = some v) :
      Fetches h now e f path v

namespace Flight.Fetches

variable {e : Engine σ} {f : Flight} {path : String} {v : Json}

/-- **A link fetches that is let in and executed, and whose verb is replied at once.** -/
theorem arriving {d : Dispatch} {rest : List Dispatch} {verb : Verb} {c : Call}
    {next : c.Reply → Script} (hm : e.isMarked d = false)
    (ht : (e.mark d).isThrottled now d.action = false)
    (hd : ∀ delay ∈ d.action.debounce, h.sleep delay e.host = 0)
    (hc : (e.mark d).refuses d = false) (hregistered : e.verbs.get? d.action.type = some verb)
    (hverb : verb.Fetches)
    (hcall : verb ((e.mark d).begun h now d verb).1.input = .call c next)
    (hpath : ((e.mark d).begun h now d verb).1.input.optional "storeAs" = some path)
    (hdelay : h.delay c ((e.mark d).begun h now d verb).2.host = 0)
    (hv : c.brings? (h.reply c ((e.mark d).begun h now d verb).2.host).1 = some v) :
    (Flight.arriving (d :: rest)).Fetches h now e path v :=
  .atOnce (x := ((e.mark d).begun h now d verb).1) hverb hcall hpath
    (Engine.fly_begun hm ht hd hc hregistered) (Engine.told_begun _ _ _).context hdelay hv

/-- However the reply has come, the flight goes on from it, and the data has not changed. -/
theorem goes_on (hf : f.Fetches h now e path v) : ∃ d rest x e₁, e₁.context = e.context
    ∧ f.poll h now e
      = Engine.follow h now d rest (Engine.tryOn h now d x (.write path v .ok) e₁) := by
  cases hf with
  | @waited d rest x c next wake _ _ hverb hcall hpath hwake hv =>
    refine ⟨d, rest, x, { e with host := (h.reply c e.host).2 }, rfl, ?_⟩
    rw [Flight.poll, if_neg (Nat.not_lt.2 hwake)]
    dsimp only
    rw [Fetching.of_reaches hverb hpath hcall c next _ v rfl hv]
  | @atOnce _ d rest x e₁ c next _ _ hverb hcall hpath hpoll hcontext hdelay hv =>
    have hnext := Fetching.of_reaches hverb hpath .refl c next _ v hcall hv
    refine ⟨d, rest, x, (e₁.note (.called c)).withHost (h.reply c e₁.host).2, hcontext, ?_⟩
    rw [hpoll, hcall, Engine.tryOn_call_now hdelay, hnext]

/-- **It lands, and has written what it fetched, and nothing else.** -/
theorem poll (hf : f.Fetches h now e path v) :
    (f.poll h now e).1 = .landed (.ok ())
      ∧ (f.poll h now e).2.context = e.context.set path v := by
  obtain ⟨d, rest, x, e₁, hcontext, hpoll⟩ := hf.goes_on
  rw [hpoll, Engine.follow_write]
  refine ⟨rfl, ?_⟩
  rw [Engine.context_settle, ← hcontext]
  rfl

end Flight.Fetches

/-! ## In any order -/

/-- **What becomes of an engine while nothing gets into its data but what is fetched**, with all
that is fetched and where it goes, in order.  All else may happen in between. -/
inductive Engine.Stores (h : Host σ) (e : Engine σ) :
    List (String × Json) → Engine σ → Prop where
  | refl : Stores h e [] e
  | fetched {ws e' now path v} {f : Flight} (s : Stores h e ws e')
      (hf : f.Fetches h now e' path v) :
      Stores h e (ws ++ [(path, v)]) (f.poll h now e').2
  | aside {ws e' e''} (s : Stores h e ws e') (he : e''.context = e'.context) : Stores h e ws e''

/-- The data is what the writes leave of it, one after the other. -/
theorem Engine.Stores.context {e e' : Engine σ} {ws : List (String × Json)}
    (s : e.Stores h ws e') : e'.context = ws.foldl (fun c w => c.set w.1 w.2) e.context := by
  induction s with
  | refl => rfl
  | fetched _ hf ih =>
    rw [List.foldl_append, ← ih, hf.poll.2]
    rfl
  | aside _ he ih => rw [he, ih]

/-- **Writes at diverging paths commute** on the context. -/
theorem Context.set_comm {p q : String} (h : Path.Diverge p q) (c : Context) (v w : Json) :
    (c.set p v).set q w = (c.set q w).set p v := by
  have hset (c : Context) {p : String} (hp : Path.segments p ≠ []) (v : Json) :
      c.set p v = ⟨c.revision + 1, c.data.set p v⟩ := if_neg (by simpa using hp)
  rw [hset c h.ne_nil, hset c h.symm.ne_nil, hset _ h.ne_nil, hset _ h.symm.ne_nil,
    Json.set_comm h]

/-- **Writes at paths that part come to the same in any order.** -/
theorem Context.foldl_set_perm {ws ws' : List (String × Json)} (hperm : ws.Perm ws')
    (hparts : ws.Pairwise fun w w' => Path.Diverge w.1 w'.1) (c : Context) :
    ws.foldl (fun c w => c.set w.1 w.2) c = ws'.foldl (fun c w => c.set w.1 w.2) c := by
  refine hperm.foldl_eq' (fun w hw w' hw' => ?_) c
  refine List.Pairwise.forall_of_forall_of_flip (R := fun w w' : String × Json => ∀ c : Context,
    (c.set w.1 w.2).set w'.1 w'.2 = (c.set w'.1 w'.2).set w.1 w.2) ?_ ?_ ?_ hw hw'
  · exact fun _ _ _ => rfl
  · exact hparts.imp fun h c => c.set_comm h _ _
  · exact hparts.imp fun h c => (c.set_comm h _ _).symm

/-- **Writes at diverging paths commute**, whatever stands where they write, and of two writes at
one path the last one counts.  So what flights fetch and store: each lands with its one write, and
if no two of them write at paths that lead on from each other, then the data comes to the same in
whatever order they are replied. -/
theorem stored_in_any_order (h : Host σ) :
    (∀ (root v w : Json) (p q : String), Path.Diverge p q →
        (root.set p v).set q w = (root.set q w).set p v)
      ∧ (∀ (root v w : Json) (p : String), (root.set p v).set p w = root.set p w)
      ∧ (∀ now (e : Engine σ) (f : Flight) path v, f.Fetches h now e path v →
        (f.poll h now e).1 = .landed (.ok ())
          ∧ (f.poll h now e).2.context = e.context.set path v)
      ∧ ∀ (e e' e₁ e₁' : Engine σ) (ws ws' : List (String × Json)), e.Stores h ws e₁ →
        e'.Stores h ws' e₁' → e'.context = e.context → ws.Perm ws' →
        (ws.Pairwise fun w w' => Path.Diverge w.1 w'.1) → e₁'.context = e₁.context := by
  refine ⟨fun root v w p q hpq => Json.set_comm hpq root v w, Json.set_set_self,
    fun now e f path v hf => hf.poll, ?_⟩
  intro e e' e₁ e₁' ws ws' hs hs' hstart hperm hparts
  rw [hs.context, hs'.context, hstart, Context.foldl_set_perm hperm hparts]

/-- Fetches an entry of the store, to keep it with the session. -/
def toSession (key : String) : Dispatch :=
  { action :=
    { type := "storage"
      payload := [("operation", .str "get"), ("key", .str key),
        ("storeAs", .str ("session." ++ key))] } }

/-- What is in store. -/
def shelf : Store := [("theme", .str "dark"), ("token", .str "t-1")]

/-- A host that takes its time over some of the entries of its store, which never change. -/
def tardy : Host Unit :=
  { offers := Console.host.offers
    delay := fun c _ => match c with
      | .storeGet "token" => 10
      | .storeGet "theme" => 5
      | _ => 0
    reply := fun c _ => ((Console.reply c shelf).1, ())
    screen? := fun _ => none
    status := fun _ => .loading }

/-- The execution that fetches, and the engine as it begins. -/
def fetchBegun (key : String) (e : Engine Unit) : Execution × Engine Unit :=
  (e.mark (toSession key)).begun tardy 0 (toSession key) Verb.storage

variable {e : Engine Unit}

/-- The store is asked for the entry, which goes with the session. -/
theorem asks_fetchBegun {key : String} (e : Engine Unit) (hempty : key.isEmpty = false)
    (hopen : '\x7b' ∉ key.toList) :
    (∃ next, Verb.storage (fetchBegun key e).1.input = .call (.storeGet key) next)
      ∧ (fetchBegun key e).1.input.optional "storeAs" = some ("session." ++ key) := by
  have hpayload : (fetchBegun key e).1.input.payload = (toSession key).action.payload := by
    refine Json.interpolateFields_of_texts _ fun s hs => Template.expand_of_no_open ?_
    obtain rfl | rfl | rfl : s = "get" ∨ s = key ∨ s = "session." ++ key := by
      simpa [toSession, Json.fieldTexts, Json.texts] using hs
    · decide
    · exact hopen
    · simpa using hopen
  have hkey : (fetchBegun key e).1.input.required "key" = .ok key := by
    rw [VerbInput.required, hpayload]
    exact if_neg (by simp [hempty])
  have hoperation : (fetchBegun key e).1.input.required "operation" = .ok "get" := by
    rw [VerbInput.required, hpayload]
    rfl
  refine ⟨?_, ?_⟩
  · rw [Verb.storage, hoperation, hkey]
    exact ⟨_, rfl⟩
  · rw [VerbInput.optional, hpayload]
    rfl

/-- What takes time is awaited, and fetched when it is there. -/
theorem awaited (key : String) {n : Nat} {v : Json}
    (hverbs : e.verbs.get? "storage" = some Verb.storage)
    (hidle : e.isMarked (toSession key) = false) (hempty : key.isEmpty = false)
    (hopen : '\x7b' ∉ key.toList) (hdelay : tardy.delay (.storeGet key) () = n + 1)
    (hv : shelf.get? key = some v) :
    ∃ f, (Flight.ofDispatch (toSession key)).poll tardy 0 e
        = (f, (fetchBegun key e).2.note (.called (.storeGet key)))
      ∧ ∀ now (e' : Engine Unit), n + 1 ≤ now → f.Fetches tardy now e' ("session." ++ key) v := by
  obtain ⟨⟨next, hcall⟩, hpath⟩ := asks_fetchBegun e hempty hopen
  have hbegun : (Flight.ofDispatch (toSession key)).poll tardy 0 e
      = Engine.follow tardy 0 (toSession key) [] (Engine.tryOn tardy 0 (toSession key)
          (fetchBegun key e).1 (Verb.storage (fetchBegun key e).1.input)
          (fetchBegun key e).2) := Engine.fly_begun hidle rfl nofun rfl hverbs
  refine ⟨.calling (toSession key) [] (fetchBegun key e).1 (.storeGet key) next (0 + (n + 1)),
    ?_, fun now e' hnow => ?_⟩
  · rw [hbegun, hcall, Engine.tryOn, Engine.runScript_call_later hdelay]
    rfl
  · have hbrings :
        (Call.storeGet key).brings? (tardy.reply (.storeGet key) e'.host).1 = some v := by
      show some ((shelf.get? key).getD .null) = some v
      rw [hv]
      rfl
    refine .waited (.inr rfl) ?_ hpath (by omega) hbrings
    show (Verb.storage (fetchBegun key e).1.input).Reaches _
    rw [hcall]
    exact .refl

/-- An engine before anybody has signed in. -/
def signingIn : Engine Unit := .new .standard {} .empty ()

/-- The token and the theme are both under way, and are there at once. -/
theorem stored_in_any_order_tardy : ∃ (f g : Flight) (e₁ e₂ : Engine Unit),
    (Flight.ofDispatch (toSession "token")).poll tardy 0 signingIn = (f, e₁)
      ∧ (Flight.ofDispatch (toSession "theme")).poll tardy 0 e₁ = (g, e₂)
      ∧ (g.poll tardy 10 (f.poll tardy 10 e₂).2).1 = .landed (.ok ())
      ∧ (f.poll tardy 10 (g.poll tardy 10 e₂).2).1 = .landed (.ok ())
      ∧ (f.poll tardy 10 (g.poll tardy 10 e₂).2).2.context
        = (g.poll tardy 10 (f.poll tardy 10 e₂).2).2.context := by
  obtain ⟨f, hf, hfetches⟩ :=
    awaited "token" (e := signingIn) (n := 9) rfl rfl rfl (by decide) rfl rfl
  obtain ⟨g, hg, hfetches'⟩ := awaited "theme" (n := 4)
    (e := (fetchBegun "token" signingIn).2.note (.called (.storeGet "token")))
    rfl (by decide +kernel) rfl (by decide) rfl rfl
  obtain ⟨-, -, hlands, horder⟩ := stored_in_any_order tardy
  refine ⟨f, g, _, _, hf, hg, ?_, ?_, ?_⟩
  · exact (hlands _ _ _ _ _ (hfetches' 10 _ (by decide))).1
  · exact (hlands _ _ _ _ _ (hfetches 10 _ (by decide))).1
  · have hboth (e : Engine Unit) : e.Stores tardy [("session.token", .str "t-1"),
        ("session.theme", .str "dark")] (g.poll tardy 10 (f.poll tardy 10 e).2).2 :=
      .fetched (.fetched .refl (hfetches 10 _ (by decide))) (hfetches' 10 _ (by decide))
    have hboth' (e : Engine Unit) : e.Stores tardy [("session.theme", .str "dark"),
        ("session.token", .str "t-1")] (f.poll tardy 10 (g.poll tardy 10 e).2).2 :=
      .fetched (.fetched .refl (hfetches' 10 _ (by decide))) (hfetches 10 _ (by decide))
    exact horder _ _ _ _ _ _ (hboth _) (hboth' _) rfl (.swap _ _ _) (by decide)

end RemoteScreen
