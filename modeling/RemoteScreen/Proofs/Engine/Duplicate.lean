import RemoteScreen.Host.Console
import RemoteScreen.Library.Standard
import RemoteScreen.Proofs.Engine.Chronicle

/-!
# Proofs/Engine/Duplicate — when a duplicate is met

A duplicate is told by a marker, and a marker says nothing but a key.  `Step.rekeyed` says once what
a step does to the markers and to the keys of the links in flight; the rest follows.

* `Chronicle.exists_link` — **a marker is the key of a link in flight**, whatever is forgotten;
* `Chronicle.exclusive` — of the links that have arrived since an instant, those in flight with one
  key have its marker and are one, **as long as no older link with that key has ended**;
* `Chronicle.duplicate_skipped` — so without forgetting a duplicate is skipped until the link that
  it repeats has ended.

The markers of an older link and of a newer one with its key are the same, so the older one takes
the newer one's with it (`not_unique_since_clear`); and a link that hands over to the next one in
its flight gives its marker up (`not_skipped_until_landed`).
-/

namespace RemoteScreen

variable {σ : Type} {h : Host σ} {now : Nat}

/-! ## Arrivals -/

/-- A link arrives where none is in flight. -/
theorem Move.key?_of_arrived {s e ds s' e'} (m : Move h now s e ds s' e') {d : Dispatch}
    (hd : .arrived d ∈ ds) : s.key? = none := by
  cases m with
  | duplicate | enter => rfl
  | _ => simp at hd

/-- A link comes into flight by arriving. -/
theorem Move.exists_arrived {s e ds s' e'} (m : Move h now s e ds s' e') {k : String}
    (hs : s.key? = none) (hs' : s'.key? = some k) : ∃ d, .arrived d ∈ ds := by
  cases m with
  | enter => exact ⟨_, List.mem_cons_self⟩
  | nothing | duplicate | throttle | refuse | unknown | succeed => simp at hs'
  | fail => simp at hs'
  | _ => cases hs

/-- A link that arrives and does nothing else is let in. -/
theorem Move.admitted_of_arrived {s e ds s' e'} (m : Move h now s e ds s' e') {d : Dispatch}
    (hd : ds = [.arrived d]) : ∃ rest, s' = .admitted d rest := by
  cases m with
  | enter =>
    cases hd
    exact ⟨_, rfl⟩
  | _ => cases hd

/-- A link that arrives is skipped if there is a marker for it. -/
theorem Move.duplicate_of_isMarked {s e ds s' e'} (m : Move h now s e ds s' e') {d : Dispatch}
    (hd : .arrived d ∈ ds) (hm : e.isMarked d = true) :
    ds = [.arrived d, .skipped d .alreadyPending] := by
  cases m with
  | duplicate =>
    obtain rfl : d = _ := by simpa using hd
    rfl
  | enter hnew =>
    obtain rfl : d = _ := by simpa using hd
    simp [hm] at hnew
  | _ => simp at hd

namespace Tower

open History

variable {t t₀ t' : Tower σ} {i j : Nat} {k : String} {H es : History h}

/-! ## Step by step -/

/-- The key of a flight is that of the link it is at. -/
theorem key?_eq_map_link? : t.key? i = (t.link? i).map Dispatch.key := by
  rw [key?, link?, Option.map_bind]
  rfl

theorem key?_of_getElem? {o : Option Stage} (hi : t.stages[i]? = some o) :
    t.key? i = o.bind Stage.key? := by
  rw [key?, stage?, hi]
  rfl

theorem key?_congr (hi : t'.stages[i]? = t.stages[i]?) : t'.key? i = t.key? i := by
  rw [key?, key?, stage?, stage?, hi]

/-- Of the keys, a step of one flight changes that flight's at most. -/
theorem key?_of_set {o o' : Option Stage} (hj : t.stages[j]? = some o)
    (ht : t'.stages = t.stages.set j o') :
    t'.key? j = o'.bind Stage.key? ∧ ∀ i, i ≠ j → t'.key? i = t.key? i := by
  constructor
  · exact key?_of_getElem? (ht ▸ getElem?_set_self hj)
  · intro i hi
    exact key?_congr (ht ▸ getElem?_set_of_ne hi o')

/-- What a step does to the markers, and to the keys of the links in flight. -/
inductive Rekeyed (es : History h) (t t' : Tower σ) : Prop where
  | kept (hk : ∀ i, t'.key? i = t.key? i) (ha : ∀ i, es.Arrives i → t.key? i = none)
      (hm : t'.engine.inFlight = t.engine.inFlight)
  | marked (j : Nat) (k : String) (hj : t.key? j = none) (hj' : t'.key? j = some k)
      (ho : ∀ i, i ≠ j → t'.key? i = t.key? i) (ha : ∀ i, es.Arrives i ↔ i = j)
      (hk : k ∉ t.engine.inFlight) (hm : t'.engine.inFlight = k :: t.engine.inFlight)
  | unmarked (j : Nat) (k : String) (hj : t.key? j = some k) (hj' : t'.key? j = none)
      (ho : ∀ i, i ≠ j → t'.key? i = t.key? i) (ha : ∀ i, ¬ es.Arrives i)
      (hm : t'.engine.inFlight = t.engine.inFlight.filter (· ≠ k))
  | cleared (hk : ∀ i, t'.key? i = t.key? i) (hes : es = [.cleared])
      (hm : t'.engine.inFlight = [])

/-- **A step of one flight marks the key that comes into flight, and unmarks the one that goes.** -/
theorem Step.rekeyed (st : Step h t es t') : Rekeyed es t t' := by
  cases st with
  | launch d ht =>
    refine .kept (fun i => ?_) (fun i hi => absurd hi (not_arrives_nil i)) rfl
    by_cases hlt : i < t.stages.length
    · exact key?_congr (List.getElem?_append_left hlt)
    · have hnone : t.key? i = none := by
        rw [key?, stage?, List.getElem?_eq_none (Nat.le_of_not_lt hlt)]
        rfl
      rw [hnone, key?, stage?, List.getElem?_append_right (Nat.le_of_not_lt hlt)]
      cases i - t.stages.length <;> rfl
  | @move _ j s ds s' e' ht hj m =>
    let t₁ : Tower σ :=
      { t with engine := e', stages := t.stages.set j (some s'), turn := some j }
    have hset : t₁.stages = t.stages.set j (some s') := rfl
    have hkey : t.key? j = s.key? := key?_of_getElem? hj
    obtain ⟨hkey', hother⟩ := key?_of_set hj hset
    rcases m.marking with ⟨hs, hk⟩ | ⟨k, hs, hs', hk, hk'⟩ | ⟨k, hs, hs', hk'⟩
    · refine .kept (fun i => ?_) (fun i hi => ?_) hk
      · by_cases hij : i = j
        · subst hij
          exact hkey'.trans (hs.trans hkey.symm)
        · exact hother i hij
      · obtain ⟨rfl, d, hd⟩ := arrives_moved.1 hi
        rw [hkey, m.key?_of_arrived hd]
    · refine .marked j k (hkey.trans hs) (hkey'.trans hs') hother (fun i => ?_) hk hk'
      exact arrives_moved.trans (and_iff_left (m.exists_arrived hs hs'))
    · refine .unmarked j k (hkey.trans hs) (hkey'.trans hs') hother (fun i hi => ?_) hk'
      obtain ⟨-, d, hd⟩ := arrives_moved.1 hi
      simp [m.key?_of_arrived hd] at hs
  | @cancel _ j f ht hj =>
    let t₁ : Tower σ := { t with engine := f.cancel t.engine, stages := t.stages.set j none }
    have hkey : t.key? j = f.link?.map Dispatch.key := key?_of_getElem? hj
    have hset : t₁.stages = t.stages.set j none := rfl
    obtain ⟨hkey', hother⟩ := key?_of_set hj hset
    have hnone (i : Nat) : ¬ Arrives [(.gaveUp j f : Entry h)] i := fun ⟨_, hm, _⟩ => by
      simp at hm
    cases hf : f.link? with
    | none =>
      rw [hf] at hkey
      refine .kept (fun i => ?_) (fun i hi => absurd hi (hnone i)) (by rw [Flight.cancel, hf])
      by_cases hij : i = j
      · subst hij
        exact hkey'.trans hkey.symm
      · exact hother i hij
    | some d =>
      rw [hf] at hkey
      exact .unmarked j d.key hkey hkey' hother hnone (by rw [Flight.cancel, hf]; rfl)
  | rest | pass => exact .kept (fun _ => rfl) (fun i hi => absurd hi (not_arrives_nil i)) rfl
  | aside ht he =>
    exact .kept (fun _ => rfl) (fun i hi => absurd hi (not_arrives_nil i)) he.inFlight
  | clear ht => exact .cleared (fun _ => rfl) rfl rfl

/-- A link that is let in is in flight. -/
theorem Step.key?_of_enters {m : Moment h} (st : Step h t [.moved i m] t') {d : Dispatch}
    (hd : m.deeds = [.arrived d]) : t'.key? i = some d.key := by
  obtain ⟨-, hi, -, -, rfl⟩ := st.moment
  obtain ⟨rest, hs⟩ := m.move.admitted_of_arrived hd
  rw [(key?_of_set hi rfl).1, hs]
  rfl

/-! ## A marker is that of a link in flight -/

/-- Every marker is the key of a link in flight. -/
def Owned (t : Tower σ) : Prop := ∀ k ∈ t.engine.inFlight, ∃ i, t.key? i = some k

/-- Keys and markers that change together leave no marker without its link in flight. -/
theorem Rekeyed.owned (r : Rekeyed es t t') (ho : Owned t) : Owned t' := by
  intro k hk
  cases r with
  | kept hkeys ha hm =>
    obtain ⟨i, hi⟩ := ho k (hm ▸ hk)
    exact ⟨i, (hkeys i).trans hi⟩
  | marked j k' hj hj' hother ha hnew hm =>
    rw [hm] at hk
    rcases List.mem_cons.1 hk with rfl | hk
    · exact ⟨j, hj'⟩
    · obtain ⟨i, hi⟩ := ho k hk
      have hij : i ≠ j := by
        rintro rfl
        simp [hj] at hi
      exact ⟨i, (hother i hij).trans hi⟩
  | unmarked j k' hj hj' hother ha hm =>
    rw [hm] at hk
    obtain ⟨hk, hne⟩ := List.mem_filter.1 hk
    obtain ⟨i, hi⟩ := ho k hk
    have hij : i ≠ j := by
      rintro rfl
      have hkk : k' = k := by simpa [hj] using hi
      simp [hkk] at hne
    exact ⟨i, (hother i hij).trans hi⟩
  | cleared hkeys hes hm => simp [hm] at hk

/-- **Along a chronicle no marker is left behind**: each is the key of a link in flight. -/
theorem Chronicle.owned (c : Chronicle h t H t') (ho : Owned t) : Owned t' := by
  induction c with
  | refl => exact ho
  | tail _ st ih => exact st.rekeyed.owned ih

/-- **A duplicate repeats a link in flight**, whatever was forgotten. -/
theorem Chronicle.exists_link {e : Engine σ} (he : e.inFlight = []) {n : Nat}
    (c : Chronicle h (.start e n) H t) {d : Dispatch} (hd : t.engine.isMarked d = true) :
    ∃ j d', t.link? j = some d' ∧ d'.key = d.key := by
  have ho : Owned (start e n) := fun k hk => by simp [start, he] at hk
  obtain ⟨j, hj⟩ := c.owned ho d.key (Engine.isMarked_iff.1 hd)
  rw [key?_eq_map_link?, Option.map_eq_some_iff] at hj
  obtain ⟨d', hj, hk⟩ := hj
  exact ⟨j, d', hj, hk⟩

/-! ## Links that have arrived since an instant -/

/-- A flight of which no link arrives keeps its key or loses it. -/
theorem Rekeyed.key?_of_not_arrives (r : Rekeyed es t t') (ha : ¬ es.Arrives i) :
    t'.key? i = t.key? i ∨ t'.key? i = none := by
  cases r with
  | kept hk | cleared hk => exact .inl (hk i)
  | marked j k hj hj' ho ha' => exact .inl (ho i fun hij => ha ((ha' i).2 hij))
  | unmarked j k hj hj' ho =>
    by_cases hij : i = j
    · exact .inr (hij ▸ hj')
    · exact .inl (ho i hij)

/-- A flight without an arrival keeps its key, or has lost it. -/
theorem Chronicle.key?_of_not_arrives (c : Chronicle h t₀ H t) (ha : ¬ H.Arrives i) :
    t.key? i = t₀.key? i ∨ t.key? i = none := by
  induction c with
  | refl => exact .inl rfl
  | tail _ st ih =>
    obtain ⟨haH, haes⟩ := not_or.1 (mt arrives_append.2 ha)
    rcases st.rekeyed.key?_of_not_arrives haes with hkept | hgone
    · rw [hkept]
      exact ih haH
    · exact .inr hgone

/-- The links with a key that were in flight still are. -/
def Stands (t₀ : Tower σ) (H : History h) (t : Tower σ) (k : String) : Prop :=
  ∀ i, t₀.key? i = some k → t.key? i = some k ∧ ¬ H.Arrives i

/-- Links that stand after a step stood before it. -/
theorem Stands.of_tail (st : Step h t es t') (hs : Stands t₀ (H ++ es) t' k) :
    Stands t₀ H t k := by
  intro i hi
  obtain ⟨hkey, ha⟩ := hs i hi
  obtain ⟨haH, haes⟩ := not_or.1 (mt arrives_append.2 ha)
  rcases st.rekeyed.key?_of_not_arrives haes with hkept | hgone
  · exact ⟨hkept ▸ hkey, haH⟩
  · simp [hkey] at hgone

/-- Of the links that have arrived, those in flight with a key have its marker, and are one. -/
structure Exclusive (H : History h) (t : Tower σ) (k : String) : Prop where
  marked : ∀ i, H.Arrives i → t.key? i = some k → k ∈ t.engine.inFlight
  unique : ∀ i j, H.Arrives i → H.Arrives j → t.key? i = some k → t.key? j = some k → i = j

/-- A link that comes into flight by arriving is the only one, and finds no marker with its key. -/
theorem Rekeyed.arrival (r : Rekeyed es t t') (ha : es.Arrives i) (hk : t'.key? i = some k) :
    k ∉ t.engine.inFlight ∧ k ∈ t'.engine.inFlight ∧ ∀ j, es.Arrives j → j = i := by
  cases r with
  | kept hkeys hnone => simp [hkeys, hnone i ha] at hk
  | marked j k' hj hj' ho harrives hnew hm =>
    obtain rfl := (harrives i).1 ha
    obtain rfl : k' = k := by simpa [hj'] using hk
    refine ⟨hnew, ?_, fun j hj => (harrives j).1 hj⟩
    rw [hm]
    exact List.mem_cons_self
  | unmarked _ _ _ _ _ hnone => exact absurd ha (hnone i)
  | cleared _ hes =>
    obtain ⟨m, hm, -⟩ := ha
    simp [hes, own, Entry.moment?] at hm

/-- A marker stays as long as no link with its key ends, and nothing is forgotten. -/
theorem Rekeyed.mem_inFlight (r : Rekeyed es t t') (hc : .cleared ∉ es)
    (hk : k ∈ t.engine.inFlight) (hkeep : ∀ j, t.key? j = some k → t'.key? j = some k) :
    k ∈ t'.engine.inFlight := by
  cases r with
  | kept _ _ hm => rwa [hm]
  | marked _ _ _ _ _ _ _ hm =>
    rw [hm]
    exact List.mem_cons_of_mem _ hk
  | unmarked j k' hj hj' _ _ hm =>
    rw [hm]
    refine List.mem_filter.2 ⟨hk, decide_eq_true fun hkk => ?_⟩
    simp [hkeep j (hkk ▸ hj)] at hj'
  | cleared _ hes => simp [hes] at hc

/-- One more step, in which none of the older links with the key ends. -/
theorem Rekeyed.exclusive (r : Rekeyed es t t') (hc : .cleared ∉ es)
    (hold : ∀ i, ¬ H.Arrives i → t.key? i = some k → t'.key? i = some k)
    (hx : Exclusive H t k) : Exclusive (H ++ es) t' k := by
  have hbefore (i : Nat) (ha : (H ++ es).Arrives i) (hes : ¬ es.Arrives i)
      (hik : t'.key? i = some k) : H.Arrives i ∧ t.key? i = some k := by
    rcases r.key?_of_not_arrives hes with hkept | hgone
    · exact ⟨(arrives_append.1 ha).resolve_right hes, hkept ▸ hik⟩
    · simp [hik] at hgone
  have hnew (i j : Nat) (hi : es.Arrives i) (hik : t'.key? i = some k)
      (ha : (H ++ es).Arrives j) (hjk : t'.key? j = some k) : j = i := by
    obtain ⟨hnone, -, hone⟩ := r.arrival hi hik
    by_cases hj : es.Arrives j
    · exact hone j hj
    · obtain ⟨hjH, hjk⟩ := hbefore j ha hj hjk
      exact absurd (hx.marked j hjH hjk) hnone
  refine ⟨fun i ha hik => ?_, fun i j hai haj hik hjk => ?_⟩
  · by_cases hi : es.Arrives i
    · exact (r.arrival hi hik).2.1
    · obtain ⟨hiH, hik₀⟩ := hbefore i ha hi hik
      refine r.mem_inFlight hc (hx.marked i hiH hik₀) fun j hjk => ?_
      by_cases hjH : H.Arrives j
      · exact hx.unique i j hiH hjH hik₀ hjk ▸ hik
      · exact hold j hjH hjk
  · by_cases hi : es.Arrives i
    · exact (hnew i j hi hik haj hjk).symm
    · by_cases hj : es.Arrives j
      · exact hnew j i hj hjk hai hik
      · obtain ⟨hiH, hik⟩ := hbefore i hai hi hik
        obtain ⟨hjH, hjk⟩ := hbefore j haj hj hjk
        exact hx.unique i j hiH hjH hik hjk

/-- **Of the links that have arrived since an instant, those in flight with one key have its marker
and are one**, as long as the older ones with that key stand. -/
theorem Chronicle.exclusive (c : Chronicle h t₀ H t) (hc : .cleared ∉ H) (hs : Stands t₀ H t k) :
    Exclusive H t k := by
  induction c with
  | refl =>
    exact ⟨fun i hi => absurd hi (not_arrives_nil i), fun i _ hi => absurd hi (not_arrives_nil i)⟩
  | tail c st ih =>
    obtain ⟨hcH, hces⟩ := not_or.1 (mt List.mem_append.2 hc)
    refine st.rekeyed.exclusive hces (fun i hi hik => ?_) (ih hcH (hs.of_tail st))
    rcases c.key?_of_not_arrives hi with hkept | hgone
    · exact (hs i (hkept ▸ hik)).1
    · simp [hik] at hgone

/-- **What is let in since an instant is let in once at a time**, be it the instant at which the
engine's memory was cleared, as long as the links with its key that were in flight then still
are. -/
theorem Chronicle.unique_since (c : Chronicle h t₀ H t) (hc : .cleared ∉ H) (hs : Stands t₀ H t k)
    (hi : H.Arrives i) (hj : H.Arrives j) (hik : t.key? i = some k) (hjk : t.key? j = some k) :
    i = j :=
  (c.exclusive hc hs).unique i j hi hj hik hjk

/-- A vibration, after a while. -/
def buzz : Dispatch := { action := { type := "vibrate", debounce := some 50 } }

/-- A flight of it that waits. -/
def buzzing (wake : Nat) : Option Stage := some (.resting (.debouncing buzz [] wake))

/-- The buzz that waits out its debounce at 50 ms succeeds in one go. -/
theorem run_buzz (e : Engine Store) (hv : e.verbs = Verb.builtins .standard) :
    ∃ ds e', Run Console.host 50 (.resting (.debouncing buzz [] 50)) e ds (.landed (.ok ()))
      e' := by
  have hv : e.verbs.get? "vibrate" = some Verb.vibrate := by
    rw [hv]
    rfl
  exact ⟨_, _, .move (.wake (Nat.le_refl 50)) (.move (.begin rfl hv rfl) (.move (.call rfl rfl)
    (.move .succeed (.rest (Flight.waits_landed _)))))⟩

/-- An engine that has let it in once. -/
def engineAtBuzz : Engine Store := (Engine.new .standard {} .empty []).mark buzz

/-- A flight of it that began at 0, after the engine's memory was cleared at 20. -/
def buzzForgotten : Tower Store := ⟨engineAtBuzz.clearCache, [buzzing 50], 20, none⟩

/-- A second flight of it that began then. -/
def buzzTwice : Tower Store :=
  ⟨engineAtBuzz.clearCache.mark buzz, [buzzing 50, buzzing 70], 50, none⟩

/-- The state in which the first buzz is forgotten comes about: it waits, and the markers are
cleared. -/
theorem cleared_buzzForgotten : ∃ (H : History Console.host) (t : Tower Store),
    Chronicle Console.host (.start (.new .standard {} .empty []) 0) H t
      ∧ Step Console.host t [.cleared] buzzForgotten := by
  have c : Chronicle Console.host (.start (.new .standard {} .empty []) 0) []
      ⟨.new .standard {} .empty [], [some (.resting (.ofDispatch buzz))], 0, none⟩ :=
    .tail .refl (.launch buzz rfl)
  obtain ⟨H, -, c⟩ := c.debounced (i := 0) rfl rfl rfl rfl rfl rfl
  have c : Chronicle Console.host (.start (.new .standard {} .empty []) 0) (H ++ [])
      ⟨engineAtBuzz, [buzzing 50], 20, none⟩ := c.tail (.pass 20 rfl)
  exact ⟨_, _, c, .clear rfl⟩

/-- From there the second buzz arrives and is let in. -/
theorem chronicle_buzzTwice : ∃ H : History Console.host,
    Chronicle Console.host buzzForgotten H buzzTwice ∧ H.IsTurn 1 20 [.arrived buzz] := by
  have c : Chronicle Console.host buzzForgotten []
      { buzzForgotten with stages := [buzzing 50, some (.resting (.ofDispatch buzz))] } :=
    .tail .refl (.launch buzz rfl)
  obtain ⟨H, hH, c⟩ := c.debounced (i := 1) rfl rfl rfl rfl rfl rfl
  have c : Chronicle Console.host buzzForgotten (H ++ []) buzzTwice := c.tail (.pass 30 rfl)
  rw [List.append_nil] at c
  exact ⟨H, c, hH⟩

/-- Among the flights that arrived since the clearing, the second buzz is alone with its key. -/
theorem unique_since_buzzTwice : ∃ H : History Console.host,
    Chronicle Console.host buzzForgotten H buzzTwice ∧ .cleared ∉ H
      ∧ Stands buzzForgotten H buzzTwice buzz.key ∧ H.Arrives 1
      ∧ buzzTwice.key? 1 = some buzz.key
      ∧ ∀ i, H.Arrives i → buzzTwice.key? i = some buzz.key → i = 1 := by
  obtain ⟨H, c, hH⟩ := chronicle_buzzTwice
  have harrives : H.Arrives 1 := hH.arrives List.mem_cons_self
  have hs : Stands buzzForgotten H buzzTwice buzz.key := by
    intro i hi
    cases i with
    | zero =>
      refine ⟨rfl, fun ⟨m, hm, _⟩ => ?_⟩
      rw [hH.own_of_ne (by decide)] at hm
      simp at hm
    | succ i => simp [buzzForgotten, key?, stage?] at hi
  exact ⟨H, c, hH.not_cleared, hs, harrives, rfl, fun i hi hik =>
    c.unique_since hH.not_cleared hs hi harrives hik rfl⟩

/-- **What is let in after the engine's memory was cleared is not let in once at a time**: the
older flight, when it ends, takes the marker of the second one with it, and a third one gets in. -/
theorem not_unique_since_clear :
    ¬ ∀ (H₀ H : History Console.host) (t t₀ t' : Tower Store),
      Chronicle Console.host (.start (.new .standard {} .empty []) 0) H₀ t →
      Step Console.host t [.cleared] t₀ → Chronicle Console.host t₀ H t' → .cleared ∉ H →
      ∀ i j k, H.Arrives i → H.Arrives j → t'.key? i = some k → t'.key? j = some k → i = j := by
  intro hall
  obtain ⟨H₀, t, c₀, st⟩ := cleared_buzzForgotten
  obtain ⟨H₁, c₁, hH₁⟩ := chronicle_buzzTwice
  obtain ⟨ds, e, r⟩ := run_buzz buzzTwice.engine rfl
  have tr : Tracked (some buzz.key) [] buzzTwice.engine.inFlight :=
    ⟨.refl _, List.nodup_cons.2 ⟨List.not_mem_nil, .nil⟩⟩
  have hm : e.isMarked buzz = false := by
    rw [Engine.isMarked, (r.tracked tr).perm.eq_nil]
    rfl
  obtain ⟨H₂, hH₂, c₂⟩ := c₁.poll (i := 0) r rfl rfl
  have c₂ : Chronicle Console.host buzzForgotten (H₁ ++ H₂ ++ [])
      ⟨e, [some (.ended (.ok ())), buzzing 70, some (.resting (.ofDispatch buzz))], 50, none⟩ :=
    c₂.tail (.launch buzz rfl)
  obtain ⟨H₃, hH₃, c₃⟩ := c₂.debounced (i := 2) rfl rfl hm rfl rfl rfl
  have hc : .cleared ∉ H₁ ++ H₂ ++ [] ++ H₃ := by
    simpa using ⟨hH₁.not_cleared, hH₂.not_cleared, hH₃.not_cleared⟩
  have h₁ : H₁.Arrives 1 := hH₁.arrives List.mem_cons_self
  have h₃ : H₃.Arrives 2 := hH₃.arrives List.mem_cons_self
  have hsame := hall H₀ _ t _ _ c₀ st c₃ hc 1 2 buzz.key
    (by simp only [arrives_append, h₁, true_or])
    (by simp only [arrives_append, h₃, or_true]) rfl rfl
  exact absurd hsame (by decide)

/-! ## As long as nothing is forgotten -/

/-- A flight has neither ended nor been given up. -/
def UnderWay (t : Tower σ) (i : Nat) : Prop :=
  ∃ s, t.stages[i]? = some (some s) ∧ ∀ r, s ≠ .ended r

/-- A flight that is under way and has made a move is at a link, unless it has the turn. -/
theorem Turns.key?_ne_none (hT : Turns H t) (hi : t.turn ≠ some i) (hu : t.UnderWay i)
    (hown : H.own i ≠ []) : t.key? i ≠ none := by
  obtain ⟨s, hs, hr⟩ := hu
  obtain ⟨f, rfl, hf⟩ := hT.others i s hi hs
  rw [key?_of_getElem? hs]
  cases f with
  | arriving links => exact absurd rfl (hf.resolve_left hown links)
  | landed r => exact absurd rfl (hr r)
  | debouncing | calling | backingOff => exact Option.some_ne_none _

/-- **A duplicate is skipped until the link that it repeats has ended.**  As long as nothing is
forgotten: from the moment that a link is let in until its flight ends, is given up, or goes on to
the next link in it, no other flight gets in with its key — be the link debounced, waiting for the
host, or waiting to be tried again. -/
theorem Chronicle.duplicate_skipped {e : Engine σ} {n : Nat} {past since : History h}
    {m m' : Moment h} (c : Chronicle h (.start e n) (past ++ .moved i m :: since) t)
    (hc : .cleared ∉ past ++ .moved i m :: since) {d d' : Dispatch} (hd : m.deeds = [.arrived d])
    (hsince : ¬ since.Arrives i) (hu : t.UnderWay i) (st : Step h t [.moved j m'] t')
    (hj : j ≠ i) (hd' : .arrived d' ∈ m'.deeds) (hk : d'.key = d.key) :
    m'.deeds = [.arrived d', .skipped d' .alreadyPending] := by
  obtain ⟨t₁, t₂, -, st₁, c₂⟩ := c.split rfl
  have hm : m ∈ own i (past ++ .moved i m :: since) := mem_own.2 (by simp)
  have harrives : (past ++ .moved i m :: since).Arrives i :=
    ⟨m, hm, d, hd ▸ List.mem_cons_self⟩
  have hturn : t.turn ≠ some i := by
    rcases st.moment.1 with ht | ht <;> simp [ht, hj]
  have hnone := c.turns.key?_ne_none hturn hu (List.ne_nil_of_mem hm)
  have hkey : t.key? i = some d.key := by
    rcases c₂.key?_of_not_arrives hsince with hkept | hgone
    · exact hkept.trans (st₁.key?_of_enters hd)
    · exact absurd hgone hnone
  have hs : Stands (start e n) (past ++ .moved i m :: since) t d.key := fun l hl => by
    simp [start, key?, stage?] at hl
  have hmarked : d.key ∈ t.engine.inFlight := (c.exclusive hc hs).marked i harrives hkey
  obtain ⟨-, -, -, heng, -⟩ := st.moment
  refine m'.move.duplicate_of_isMarked hd' ?_
  rw [heng, Engine.isMarked_iff, hk]
  exact hmarked

/-- A flight of the vibration that waits, and one that begins then. -/
def buzzRepeated : Tower Store :=
  ⟨engineAtBuzz, [buzzing 50, some (.resting (.ofDispatch buzz))], 0, none⟩

/-- The first buzz arrives and waits, with no move after its first. -/
theorem chronicle_buzzRepeated : ∃ (m : Moment Console.host) (since : History Console.host),
    m.deeds = [.arrived buzz] ∧ since.IsTurn 0 0 []
      ∧ Chronicle Console.host (.start (.new .standard {} .empty []) 0) ([] ++ .moved 0 m :: since)
          buzzRepeated := by
  let begun : Option Stage := some (.resting (.ofDispatch buzz))
  have c : Chronicle Console.host (.start (.new .standard {} .empty []) 0) []
      ⟨.new .standard {} .empty [], [begun, begun], 0, none⟩ :=
    .tail (.tail .refl (.launch buzz rfl)) (.launch buzz rfl)
  have r : Run Console.host 0 (.admitted buzz []) engineAtBuzz _ (.debouncing buzz [] 50)
      engineAtBuzz :=
    .move (.debounce rfl rfl rfl) (.rest (Flight.waits_debouncing.2 (by decide)))
  exact c.admit (i := 0) rfl rfl rfl r

/-- While the first buzz waits, its key is marked. -/
theorem isMarked_buzzRepeated : buzzRepeated.engine.isMarked buzz = true :=
  Engine.isMarked_iff.2 List.mem_cons_self

/-- **A second buzz is skipped while the first waits**, as the general statement has it. -/
theorem duplicate_skipped_buzzRepeated : ∃ (m : Moment Console.host) (since : History Console.host)
    (m' : Moment Console.host) (t' : Tower Store),
    Chronicle Console.host (.start (.new .standard {} .empty []) 0)
        ([] ++ .moved 0 m :: since) buzzRepeated
      ∧ .cleared ∉ [] ++ .moved 0 m :: since ∧ m.deeds = [.arrived buzz] ∧ ¬ since.Arrives 0
      ∧ buzzRepeated.UnderWay 0 ∧ Step Console.host buzzRepeated [.moved 1 m'] t'
      ∧ .arrived buzz ∈ m'.deeds ∧ m'.deeds = [.arrived buzz, .skipped buzz .alreadyPending] := by
  obtain ⟨m, since, hd, hsince, c⟩ := chronicle_buzzRepeated
  have hc : .cleared ∉ [] ++ .moved 0 m :: since := by simpa using hsince.not_cleared
  have hnone : ¬ since.Arrives 0 := by
    rintro ⟨m', hm', d, hd⟩
    have hd := List.mem_flatMap.2 ⟨m', hm', hd⟩
    rw [hsince.deeds] at hd
    simp at hd
  have hu : buzzRepeated.UnderWay 0 := ⟨_, rfl, by simp⟩
  have hmove : Move Console.host 0 (.resting (.ofDispatch buzz)) buzzRepeated.engine _ _ _ :=
    .duplicate isMarked_buzzRepeated
  have st := Step.move (i := 1) (t := buzzRepeated) (.inl rfl) rfl hmove
  refine ⟨m, since, _, _, c, hc, hd, hnone, hu, st, List.mem_cons_self, ?_⟩
  exact c.duplicate_skipped hc hd hnone hu st (by decide) List.mem_cons_self rfl

/-- An action that fails for want of a screen to go to; after a while, a line for the log stands in
for it. -/
def stranded : Dispatch :=
  { action := { type := "navigate", fallback := some { type := "log", debounce := some 50 } } }

/-- A failing link is left behind and its marker dropped, while the fallback waits. -/
theorem run_stranded : ∃ (first second : Dispatch) (ds : List Deed) (e : Engine Store),
    stranded.links = [first, second] ∧
    Run Console.host 0 (.admitted first [second]) ((Engine.new .standard {} .empty []).mark first)
        ds (.debouncing second [] 50) e ∧ e.isMarked first = false := by
  have hv : (Verb.builtins .standard).get? "navigate" = some Verb.navigate := rfl
  refine ⟨_, _, _, _, rfl, .move (.pass ?_ ?_) (.move (.begin ?_ hv rfl)
    (.move (@Move.fail _ _ _ _ _ _ (.missingField "navigateTo") _ ?_) (.move (.enter ?_)
    (.move (.debounce ?_ rfl rfl) (.rest (Flight.waits_debouncing.2 ?_)))))), ?_⟩
  all_goals decide +kernel

/-- **A duplicate is not skipped until the flight that it repeats has ended**: while another link
stands in for the first one, there is no marker for it. -/
theorem not_skipped_until_landed :
    ¬ ∀ (past since : History Console.host) (m m' : Moment Console.host) (t t' : Tower Store)
        (i j : Nat) (d d' : Dispatch),
      Chronicle Console.host (.start (.new .standard {} .empty []) 0)
        (past ++ .moved i m :: since) t →
      .cleared ∉ past ++ .moved i m :: since → past.own i = [] → m.deeds = [.arrived d] →
      t.UnderWay i → Step Console.host t [.moved j m'] t' → j ≠ i →
      (past ++ .moved i m :: since).own j = [] → .arrived d' ∈ m'.deeds → d'.key = d.key →
      .skipped d' .alreadyPending ∈ m'.deeds := by
  intro hall
  obtain ⟨first, second, ds, e, hlinks, r, hm⟩ := run_stranded
  let e₀ : Engine Store := .new .standard {} .empty []
  let begun : Option Stage := some (.resting (.arriving [first, second]))
  have c : Chronicle Console.host (.start e₀ 0) [] ⟨e₀, [begun, begun], 0, none⟩ := by
    have hbegun : begun = some (.resting (.ofDispatch stranded)) := by
      rw [Flight.ofDispatch, hlinks]
    rw [hbegun]
    exact .tail (.tail .refl (.launch stranded rfl)) (.launch stranded rfl)
  obtain ⟨m, since, hd, hsince, c⟩ := c.admit (i := 0) rfl rfl rfl r
  have hc : .cleared ∉ [] ++ .moved 0 m :: since := by simpa using hsince.not_cleared
  have hown : own 1 (([] : History Console.host) ++ .moved 0 m :: since) = [] := by
    rw [List.nil_append, ← List.singleton_append, own_append, own_moved_of_ne (by decide),
      hsince.own_of_ne (by decide), List.append_nil]
  have hskipped := hall [] since m _ _ _ 0 1 first first c hc rfl hd ⟨_, rfl, by simp⟩
    (.move (.inl rfl) rfl (.enter hm)) (by decide) hown List.mem_cons_self rfl
  simp at hskipped

end Tower

end RemoteScreen
