import Mathlib.Data.List.Induction
import RemoteScreen.Proofs.Event.Follow

/-!
# Proofs/Event/Delivery — what the receivers of a bus get

A bus is **used** in any order: events are sent, receivers join and leave, wait for events and look
for them.  The log of a run notes what comes of each use; an event is noted under its number, when
it is sent and whenever somebody gets it.

    sent:   0 ─ 1 ─ 2 ─ 3 ─ 4 ─ 5 ─ 6
                ▴       ▴       ▴
              start   oldest  position

The bus is a window on what the log says was sent (`Ring`), and a use is one of seven things to a
receiver (`Turn`).  With that, all that is said of a receiver is said of three numbers: where it has
joined, where the window begins, and where it is.

* `Traced` — what a receiver has got lies between where it has joined and where it is;
* `delivered_in_order` — **a receiver gets the events sent since it has joined, in order and none
  twice; and all of them, if it is never too far behind when one is sent**.
-/

namespace RemoteScreen

namespace Bus

/-! ## Runs -/

/-- What is done at a bus. -/
inductive Use where
  | publish (ev : Event)
  | subscribe
  | leave (receiver : Nat)
  /-- A receiver waits for an event, and gets what there is at once. -/
  | receive (receiver : Nat)
  /-- A receiver looks for an event. -/
  | look (receiver : Nat)
  /-- Receivers go on with what is kept. -/
  | close
  deriving DecidableEq

/-- What is noted of a use. -/
inductive Note where
  | sent (ev : Event) (number : Nat)
  | unheard (ev : Event)
  | joined (receiver : Nat)
  | left (receiver : Nat)
  | got (receiver : Nat) (ev : Event) (number : Nat)
  /-- A receiver is told how many events it has lost. -/
  | lagged (receiver lost : Nat)
  | nothing (receiver : Nat)
  | closed
  deriving DecidableEq

/-- What comes of a use: the note of it, and the bus after it. -/
def use (b : Bus) : Use → Note × Bus
  | .publish ev =>
    match b.publish ev with
    | .ok b' => (.sent ev b.sent, b')
    | .error _ => (.unheard ev, b)
  | .subscribe => (.joined b.subscribe.1, b.subscribe.2)
  | .leave r => (.left r, b.leave r)
  | .receive r =>
    match b.receive r with
    | (.ok (some ev), b') => (.got r ev ((b.position? r).getD 0), b')
    | (.error (.lagged lost), b') => (.lagged r lost, b')
    | (_, b') => (.nothing r, b')
  | .look r =>
    match b.look r with
    | (some ev, b') => (.got r ev ((b.position? r).getD 0), b')
    | (none, b') => (.nothing r, b')
  | .close => (.closed, b.close)

/-- The log of a run of uses, and the bus after it. -/
def run (capacity : Nat) (uses : List Use) : List Note × Bus :=
  uses.foldl (fun s u => (s.1 ++ [(s.2.use u).1], (s.2.use u).2)) ([], new capacity)

/-- The log of a run. -/
def logged (capacity : Nat) (uses : List Use) : List Note := (run capacity uses).1

/-- The bus after a run. -/
def after (capacity : Nat) (uses : List Use) : Bus := (run capacity uses).2

theorem logged_concat (capacity : Nat) (uses : List Use) (u : Use) :
    logged capacity (uses ++ [u]) = logged capacity uses ++ [((after capacity uses).use u).1] := by
  rw [logged, run, List.foldl_append]
  rfl

theorem after_concat (capacity : Nat) (uses : List Use) (u : Use) :
    after capacity (uses ++ [u]) = ((after capacity uses).use u).2 := by
  rw [after, run, List.foldl_append]
  rfl

namespace Note

/-- The event that is sent, with its number. -/
def sent? : Note → Option (Event × Nat)
  | sent ev number => some (ev, number)
  | _ => none

/-- The event that a receiver gets, with its number. -/
def got? (r : Nat) : Note → Option (Event × Nat)
  | got r' ev number => if r' = r then some (ev, number) else none
  | _ => none

/-- How many events a receiver is told to have lost. -/
def lost? (r : Nat) : Note → Option Nat
  | lagged r' lost => if r' = r then some lost else none
  | _ => none

/-- The note is not about what a receiver can get, nor about what it does. -/
structure Apart (r : Nat) (note : Note) : Prop where
  sent : note.sent? = none
  got : note.got? r = none
  lost : note.lost? r = none
  joined : note ≠ .joined r

end Note

/-- The events sent in a log. -/
def sentIn (log : List Note) : List (Event × Nat) := log.filterMap Note.sent?

/-- The events sent since a receiver has joined. -/
def announced (log : List Note) (r : Nat) : List (Event × Nat) :=
  sentIn (log.dropWhile (· ≠ .joined r))

/-- The events that a receiver has got. -/
def delivered (log : List Note) (r : Nat) : List (Event × Nat) := log.filterMap (Note.got? r)

/-- The losses that a receiver has been told of. -/
def lags (log : List Note) (r : Nat) : List Nat := log.filterMap (Note.lost? r)

/-- How many events had been sent when a receiver joined. -/
def start (log : List Note) (r : Nat) : Nat :=
  (sentIn (log.takeWhile (· ≠ .joined r))).length

variable {log : List Note} {note : Note} {b b' : Bus} {r p q : Nat} {u : Use} {ev : Event}

private theorem filterMap_concat {α β : Type} (f : α → Option β) (l : List α) (a : α) :
    (l ++ [a]).filterMap f = l.filterMap f ++ (f a).toList := by
  rw [List.filterMap_append]
  cases h : f a <;> simp [h]

/-- A note adds the event it tells of to those sent. -/
theorem sentIn_concat (log : List Note) (note : Note) :
    sentIn (log ++ [note]) = sentIn log ++ note.sent?.toList := filterMap_concat _ _ _

/-- A note adds what the receiver got by it. -/
theorem delivered_concat (log : List Note) (note : Note) (r : Nat) :
    delivered (log ++ [note]) r = delivered log r ++ (note.got? r).toList := filterMap_concat _ _ _

theorem lags_concat (log : List Note) (note : Note) (r : Nat) :
    lags (log ++ [note]) r = lags log r ++ (note.lost? r).toList := filterMap_concat _ _ _

theorem delivered_keep (h : note.got? r = none) :
    delivered (log ++ [note]) r = delivered log r := by
  rw [delivered_concat, h, Option.toList_none, List.append_nil]

theorem lags_keep (h : note.lost? r = none) : lags (log ++ [note]) r = lags log r := by
  rw [lags_concat, h, Option.toList_none, List.append_nil]

/-- What is announced to a receiver are the events sent since it joined. -/
theorem announced_eq (log : List Note) (r : Nat) :
    announced log r = (sentIn log).drop (start log r) := by
  have hsplit : sentIn log = sentIn (log.takeWhile (· ≠ .joined r))
      ++ sentIn (log.dropWhile (· ≠ .joined r)) := by
    rw [sentIn, sentIn, sentIn, ← List.filterMap_append, List.takeWhile_append_dropWhile]
  rw [hsplit, start, List.drop_left]
  rfl

/-- Up to where a receiver joins, the log is what it was before. -/
private theorem takeWhile_joined {before rest : List Note} (h : .joined r ∉ before) :
    (before ++ .joined r :: rest).takeWhile (· ≠ .joined r) = before := by
  rw [List.takeWhile_append_of_pos, List.takeWhile_cons_of_neg (by simp), List.append_nil]
  intro a ha
  exact decide_eq_true fun heq => h (heq ▸ ha)

/-- What happens after it has joined does not change where a receiver has joined. -/
theorem start_concat (h : .joined r ∈ log) (note : Note) :
    start (log ++ [note]) r = start log r := by
  obtain ⟨before, rest, rfl, hnot⟩ := List.eq_append_cons_of_mem h
  rw [start, start, List.append_assoc, List.cons_append, takeWhile_joined hnot,
    takeWhile_joined hnot]

/-- A receiver that has just joined starts behind all events so far. -/
theorem start_joined (h : .joined r ∉ log) :
    start (log ++ [.joined r]) r = (sentIn log).length := by
  rw [start, takeWhile_joined h]

/-! ## One use -/

/-- **What a use comes to for a receiver.** -/
inductive Turn (b : Bus) (r : Nat) : Use → Note → Bus → Prop where
  | told (ev : Event) : Turn b r (.publish ev) (.sent ev b.sent)
      { b with
        sent := b.sent + 1
        kept := (b.kept ++ [ev]).drop (b.kept.length + 1 - b.room) }
  | joins (hr : b.positions.length = r) : Turn b r .subscribe (.joined r) b.subscribe.2
  | leaves : Turn b r (.leave r) (.left r) (b.leave r)
  | gets (u : Use) {p : Nat} {ev : Event} (hp : b.position? r = some p)
      (hv : b.view p = .event ev) : Turn b r u (.got r ev p) (b.move r (some (p + 1)))
  /-- It is told of a loss, and goes on with what is sent later. -/
  | lags {p lost : Nat} (hp : b.position? r = some p) (hv : b.view p = .lost lost) :
      Turn b r (.receive r) (.lagged r lost) (b.move r (some b.sent))
  /-- It is not told of a loss, and goes on with what is kept. -/
  | slips {p lost : Nat} (hp : b.position? r = some p) (hv : b.view p = .lost lost) :
      Turn b r (.look r) (.nothing r) (b.move r (some b.oldest))
  /-- It is not concerned. -/
  | aside (u : Use) {note : Note} {b' : Bus} (hn : note.Apart r) (hu : b.Undisturbed r b')
      (hroom : b'.room = b.room)
      (hjoined : r < b'.positions.length ↔ r < b.positions.length) : Turn b r u note b'

namespace Turn

/-- Nothing happens but that it is noted. -/
theorem idle (u : Use) (hn : note.Apart r) : b.Turn r u note b := aside u hn (.refl b r) rfl .rfl

/-- Another receiver moves. -/
theorem elsewhere {s : Nat} (u : Use) (hs : s ≠ r) (position : Option Nat) (hn : note.Apart r) :
    b.Turn r u note (b.move s position) :=
  aside u hn ⟨rfl, rfl, position?_move_of_ne hs position⟩ rfl (by rw [length_move])

end Turn

namespace Note

theorem apart_unheard (r : Nat) (ev : Event) : (unheard ev).Apart r := ⟨rfl, rfl, rfl, nofun⟩

theorem apart_left (r s : Nat) : (left s).Apart r := ⟨rfl, rfl, rfl, nofun⟩

theorem apart_got {r s : Nat} (hs : s ≠ r) (ev : Event) (p : Nat) : (got s ev p).Apart r :=
  ⟨rfl, if_neg hs, rfl, nofun⟩

theorem apart_lagged {r s : Nat} (hs : s ≠ r) (lost : Nat) : (lagged s lost).Apart r :=
  ⟨rfl, rfl, if_neg hs, nofun⟩

theorem apart_nothing (r s : Nat) : (nothing s).Apart r := ⟨rfl, rfl, rfl, nofun⟩

theorem apart_closed (r : Nat) : closed.Apart r := ⟨rfl, rfl, rfl, nofun⟩

end Note

/-- A receiver that waits gets an event, is told of a loss, or nothing happens. -/
theorem use_receive (b : Bus) (s : Nat) :
    (∃ p ev, b.position? s = some p ∧ b.view p = .event ev
        ∧ b.use (.receive s) = (.got s ev p, b.move s (some (p + 1))))
      ∨ (∃ p lost, b.position? s = some p ∧ b.view p = .lost lost
        ∧ b.use (.receive s) = (.lagged s lost, b.move s (some b.sent)))
      ∨ (∀ p, b.position? s = some p → b.view p = .nothing)
        ∧ b.use (.receive s) = (.nothing s, b) := by
  rw [use, receive]
  cases hp : b.position? s with
  | none => exact .inr (.inr ⟨fun p h => absurd h (Option.some_ne_none p).symm, rfl⟩)
  | some p =>
    cases hv : b.view p with
    | event ev => exact .inl ⟨p, ev, rfl, hv, by simp [hv]⟩
    | lost lost => exact .inr (.inl ⟨p, lost, rfl, hv, by simp [hv]⟩)
    | nothing =>
      have hview : ∀ q, some p = some q → b.view q = .nothing := fun q hq =>
        Option.some.inj hq ▸ hv
      refine .inr (.inr ⟨hview, ?_⟩)
      simp only [hv]
      cases b.closed <;> rfl

/-- A receiver that looks gets an event, loses some, or nothing happens. -/
theorem use_look (b : Bus) (s : Nat) :
    (∃ p ev, b.position? s = some p ∧ b.view p = .event ev
        ∧ b.use (.look s) = (.got s ev p, b.move s (some (p + 1))))
      ∨ (∃ p lost, b.position? s = some p ∧ b.view p = .lost lost
        ∧ b.use (.look s) = (.nothing s, b.move s (some b.oldest)))
      ∨ (∀ p, b.position? s = some p → b.view p = .nothing)
        ∧ b.use (.look s) = (.nothing s, b) := by
  rw [use, look]
  cases hp : b.position? s with
  | none => exact .inr (.inr ⟨fun p h => absurd h (Option.some_ne_none p).symm, rfl⟩)
  | some p =>
    cases hv : b.view p with
    | event ev => exact .inl ⟨p, ev, rfl, hv, by simp [hv]⟩
    | lost lost => exact .inr (.inl ⟨p, lost, rfl, hv, by simp [hv]⟩)
    | nothing =>
      have hview : ∀ q, some p = some q → b.view q = .nothing := fun q hq =>
        Option.some.inj hq ▸ hv
      exact .inr (.inr ⟨hview, by simp [hv]⟩)

/-- **A use of the bus is a turn**, for every receiver. -/
theorem turn (b : Bus) (r : Nat) (u : Use) : b.Turn r u (b.use u).1 (b.use u).2 := by
  cases u with
  | publish ev =>
    rw [use, publish]
    by_cases hnobody : b.subscribers = 0
    · rw [if_pos hnobody]
      exact .idle _ (Note.apart_unheard r ev)
    · rw [if_neg hnobody]
      simpa using Turn.told (b := b) (r := r) ev
  | subscribe =>
    by_cases hr : b.positions.length = r
    · exact hr ▸ .joins rfl
    · refine .aside _ ⟨rfl, rfl, rfl, fun h => hr (Note.joined.inj h)⟩
        ⟨rfl, rfl, position?_subscribe_of_ne hr⟩ rfl ?_
      have hlength := b.length_subscribe
      show r < b.subscribe.2.positions.length ↔ _
      omega
  | leave s =>
    by_cases hs : s = r
    · exact hs ▸ .leaves
    · exact .elsewhere _ hs none (Note.apart_left r s)
  | receive s =>
    rcases b.use_receive s with ⟨p, ev, hp, hv, hu⟩ | ⟨p, lost, hp, hv, hu⟩ | ⟨-, hu⟩
    · rw [hu]
      by_cases hs : s = r
      · subst hs
        exact .gets _ hp hv
      · exact .elsewhere _ hs _ (Note.apart_got hs ev p)
    · rw [hu]
      by_cases hs : s = r
      · subst hs
        exact .lags hp hv
      · exact .elsewhere _ hs _ (Note.apart_lagged hs lost)
    · rw [hu]
      exact .idle _ (Note.apart_nothing r s)
  | look s =>
    rcases b.use_look s with ⟨p, ev, hp, hv, hu⟩ | ⟨p, lost, hp, hv, hu⟩ | ⟨-, hu⟩
    · rw [hu]
      by_cases hs : s = r
      · subst hs
        exact .gets _ hp hv
      · exact .elsewhere _ hs _ (Note.apart_got hs ev p)
    · rw [hu]
      by_cases hs : s = r
      · subst hs
        exact .slips hp hv
      · exact .elsewhere _ hs _ (Note.apart_nothing r s)
    · rw [hu]
      exact .idle _ (Note.apart_nothing r s)
  | close => exact .aside _ (Note.apart_closed r) ⟨rfl, rfl, rfl⟩ rfl .rfl

/-! ## The bus as a window -/

/-- **The bus keeps the latest of the events sent.** -/
structure Ring (log : List Note) (b : Bus) : Prop where
  numbered : sentIn log = ((sentIn log).map Prod.fst).zipIdx
  sent : (sentIn log).length = b.sent
  kept : b.kept = ((sentIn log).map Prod.fst).drop (b.sent - b.room)

namespace Ring

theorem start (capacity : Nat) : Ring [] (new capacity) := ⟨rfl, rfl, List.drop_nil.symm⟩

/-- What sends nothing leaves the window where it is. -/
theorem keep (hr : Ring log b) (hnote : note.sent? = none) (hsent : b'.sent = b.sent)
    (hkept : b'.kept = b.kept) (hroom : b'.room = b.room) : Ring (log ++ [note]) b' := by
  have hin : sentIn (log ++ [note]) = sentIn log := by
    rw [sentIn_concat, hnote, Option.toList_none, List.append_nil]
  exact ⟨hin ▸ hr.numbered, hin ▸ hsent ▸ hr.sent, by rw [hin, hsent, hkept, hroom, hr.kept]⟩

/-- An event that is sent is the newest in the window, and the oldest gives way. -/
theorem told (hr : Ring log b) (ev : Event) : Ring (log ++ [.sent ev b.sent])
    { b with
      sent := b.sent + 1
      kept := (b.kept ++ [ev]).drop (b.kept.length + 1 - b.room) } := by
  have hin : sentIn (log ++ [.sent ev b.sent]) = sentIn log ++ [(ev, b.sent)] := sentIn_concat _ _
  have hlength : ((sentIn log).map Prod.fst).length = b.sent :=
    (List.length_map _).trans hr.sent
  refine ⟨?_, ?_, ?_⟩
  · rw [hin, List.map_append, List.zipIdx_append, ← hr.numbered, hlength]
    simp
  · rw [hin, List.length_append, hr.sent]
    rfl
  · have hkept : b.kept.length = b.sent - (b.sent - b.room) := by
      rw [hr.kept, List.length_drop, hlength]
    show (b.kept ++ [ev]).drop (b.kept.length + 1 - b.room) = _
    rw [hin, List.map_append, hkept, hr.kept,
      ← List.drop_append_of_le_length (by omega), List.drop_drop]
    congr 1
    show _ = b.sent + 1 - b.room
    omega

variable (hr : Ring log b)
include hr

/-- The oldest event kept lies a whole room back. -/
theorem oldest_eq : b.oldest = b.sent - b.room := by
  rw [oldest, hr.kept, List.length_drop, List.length_map, hr.sent]
  omega

/-- Numbers are places. -/
theorem getElem?_sentIn (p : Nat) :
    (sentIn log)[p]? = ((sentIn log).map Prod.fst)[p]?.map fun ev => (ev, p) := by
  conv_lhs => rw [hr.numbered]
  rw [List.getElem?_zipIdx, Nat.zero_add]

/-- Events are numbered in the order they were sent. -/
theorem pairwise_sentIn : (sentIn log).Pairwise (·.2 < ·.2) := by
  have hnumbers : (sentIn log).map Prod.snd = List.range' 0 ((sentIn log).map Prod.fst).length := by
    conv_lhs => rw [hr.numbered]
    exact List.zipIdx_map_snd 0 _
  have hlt : ((sentIn log).map Prod.snd).Pairwise (· < ·) := hnumbers ▸ List.pairwise_lt_range'
  exact List.pairwise_map.1 hlt

/-- Each stands at its number. -/
theorem getElem?_of_mem {x : Event × Nat} (hx : x ∈ sentIn log) : (sentIn log)[x.2]? = some x := by
  obtain ⟨p, hp⟩ := List.mem_iff_getElem?.1 hx
  have hplace := hr.getElem?_sentIn p
  rw [hp] at hplace
  obtain ⟨ev, -, rfl⟩ := Option.map_eq_some_iff.1 hplace.symm
  exact hp

/-- What shows at a position is the event with that number. -/
theorem of_view_event (hv : b.view p = .event ev) :
    b.oldest ≤ p ∧ p < b.sent ∧ (sentIn log)[p]? = some (ev, p) := by
  rw [view] at hv
  split at hv
  · cases hv
  · next hle =>
    have hle := Nat.le_of_not_lt hle
    split at hv
    · next e he =>
      obtain rfl : e = ev := View.event.inj hv
      have hplace : b.sent - b.room + (p - b.oldest) = p := by
        rw [← hr.oldest_eq]
        omega
      rw [hr.kept, List.getElem?_drop, hplace] at he
      have hget : (sentIn log)[p]? = some (e, p) := by rw [hr.getElem?_sentIn, he]; rfl
      exact ⟨hle, hr.sent ▸ (List.getElem?_eq_some_iff.1 hget).1, hget⟩
    · cases hv

/-- Where nothing shows, everything sent lies behind. -/
theorem of_view_nothing (hv : b.view p = .nothing) : b.sent ≤ p := by
  rw [view] at hv
  split at hv
  · cases hv
  · next hle =>
    split at hv
    · cases hv
    · next hnone =>
      have hlength := List.getElem?_eq_none_iff.1 hnone
      have hkept : b.kept.length ≤ b.sent := by
        rw [hr.kept, List.length_drop, List.length_map, hr.sent]
        exact Nat.sub_le _ _
      rw [oldest] at hle hlength
      omega

end Ring

/-- What is lost is what lies between a position and the window. -/
theorem of_view_lost {lost : Nat} (hv : b.view p = .lost lost) :
    p < b.oldest ∧ lost = b.oldest - p := by
  rw [view] at hv
  split at hv
  · next hlt => exact ⟨hlt, (View.lost.inj hv).symm⟩
  · split at hv <;> cases hv

/-- **A turn keeps the last events**, as many as there is room for. -/
theorem Turn.ring (t : b.Turn r u note b') (hr : Ring log b) : Ring (log ++ [note]) b' := by
  cases t with
  | told ev => exact hr.told ev
  | aside _ hn hu hroom => exact hr.keep hn.sent hu.sent hu.kept hroom
  | _ => exact hr.keep rfl rfl rfl rfl

/-- A turn makes no room. -/
theorem Turn.room (t : b.Turn r u note b') : b'.room = b.room := by
  cases t with
  | aside _ _ _ hroom => exact hroom
  | _ => rfl

/-! ## What lies behind a receiver -/

/-- The events between where a receiver has joined and a position. -/
def passed (log : List Note) (r p : Nat) : List (Event × Nat) :=
  ((sentIn log).take p).drop (start log r)

theorem passed_sublist_announced (log : List Note) (r p : Nat) :
    (passed log r p).Sublist (announced log r) := by
  rw [passed, announced_eq]
  exact (List.take_sublist p _).drop _

/-- Further on more is passed. -/
theorem passed_mono (log : List Note) (r : Nat) (h : p ≤ q) :
    (passed log r p).Sublist (passed log r q) := (List.take_sublist_take_left h).drop _

/-- At the end all that was announced is passed. -/
theorem passed_of_length (log : List Note) (r : Nat) :
    passed log r (sentIn log).length = announced log r := by
  rw [passed, announced_eq, List.take_length]

/-- As many events are passed as lie between start and position. -/
theorem length_passed (h : p ≤ (sentIn log).length) :
    (passed log r p).length = p - start log r := by
  rw [passed, List.length_drop, List.length_take, Nat.min_eq_left h]

/-- One position further one event more is passed. -/
theorem passed_succ {x : Event × Nat} (hstart : start log r ≤ p) (hx : (sentIn log)[p]? = some x) :
    passed log r (p + 1) = passed log r p ++ [x] := by
  have hlt := (List.getElem?_eq_some_iff.1 hx).1
  rw [passed, List.take_add_one, hx, List.drop_append_of_le_length]
  · rfl
  · rw [List.length_take]
    omega

/-- What is passed already stays the same when a note is added. -/
theorem passed_concat (hj : .joined r ∈ log) (h : p ≤ (sentIn log).length) (note : Note) :
    passed (log ++ [note]) r p = passed log r p := by
  rw [passed, start_concat hj, sentIn_concat, List.take_append_of_le_length h]
  rfl

/-- What is announced grows by the events sent. -/
theorem announced_concat (hj : .joined r ∈ log) (hstart : start log r ≤ (sentIn log).length)
    (note : Note) : announced (log ++ [note]) r = announced log r ++ note.sent?.toList := by
  rw [announced_eq, announced_eq, start_concat hj, sentIn_concat,
    List.drop_append_of_le_length hstart]

/-- No receiver starts behind more events than were sent. -/
theorem start_le (log : List Note) (r : Nat) : start log r ≤ (sentIn log).length :=
  ((List.takeWhile_sublist _).filterMap _).length_le

/-- **What a receiver has got lies between where it has joined and where it is.** -/
structure Traced (log : List Note) (b : Bus) (r : Nat) : Prop where
  unknown : b.positions.length ≤ r →
    .joined r ∉ log ∧ delivered log r = [] ∧ lags log r = []
  known : r < b.positions.length → .joined r ∈ log
  delivered : (delivered log r).Sublist (announced log r)
  place : ∀ p, b.position? r = some p →
    start log r ≤ p ∧ p ≤ b.sent ∧ (Bus.delivered log r).Sublist (passed log r p)

namespace Traced

theorem start (capacity r : Nat) : Traced [] (new capacity) r where
  unknown _ := ⟨List.not_mem_nil, rfl, rfl⟩
  known h := absurd h (Nat.not_lt_zero r)
  delivered := .slnil
  place p hp := by simp [new, position?] at hp

variable (ht : Traced log b r)
include ht

/-- A receiver with a position has joined. -/
theorem joined (hp : b.position? r = some p) : .joined r ∈ log :=
  ht.known (lt_length_of_position hp)

/-- A receiver that goes on has got something of what it has passed. -/
theorem moved (hr : Ring log b) (hp : b.position? r = some p) (hnote : note.sent? = none)
    (hpq : p ≤ q) (hq : q ≤ b.sent)
    (hd : (Bus.delivered (log ++ [note]) r).Sublist (passed log r q)) :
    Traced (log ++ [note]) (b.move r (some q)) r where
  unknown hlt := by
    have := lt_length_of_position hp
    rw [length_move] at hlt
    omega
  known _ := List.mem_append_left _ (ht.joined hp)
  delivered := by
    rw [announced_concat (ht.joined hp) (start_le log r), hnote, Option.toList_none,
      List.append_nil]
    exact hd.trans (passed_sublist_announced log r q)
  place q' hq' := by
    obtain rfl : q = q' := by
      rw [position?_move (lt_length_of_position hp)] at hq'
      exact Option.some.inj hq'
    rw [start_concat (ht.joined hp), passed_concat (ht.joined hp) (hr.sent ▸ hq)]
    exact ⟨Nat.le_trans (ht.place p hp).1 hpq, hq, hd⟩

/-- What concerns others leaves a receiver where it is. -/
theorem keep (hr : Ring log b) (hgot : note.got? r = none) (hlost : note.lost? r = none)
    (hnote : note ≠ .joined r)
    (hposition : ∀ p, b'.position? r = some p → b.position? r = some p)
    (hsent : b.sent ≤ b'.sent) (hjoined : r < b'.positions.length ↔ r < b.positions.length) :
    Traced (log ++ [note]) b' r := by
  have hd : Bus.delivered (log ++ [note]) r = Bus.delivered log r := delivered_keep hgot
  have hl : lags (log ++ [note]) r = lags log r := lags_keep hlost
  refine ⟨fun hlt => ?_, fun hlt => ?_, ?_, fun p hp => ?_⟩
  · obtain ⟨hnot, hnone⟩ := ht.unknown (by omega)
    refine ⟨fun hmem => ?_, hd ▸ hl ▸ hnone⟩
    rcases List.mem_append.1 hmem with hmem | hmem
    · exact hnot hmem
    · exact hnote (List.mem_singleton.1 hmem).symm
  · exact List.mem_append_left _ (ht.known (hjoined.1 hlt))
  · rw [hd]
    by_cases hlt : r < b.positions.length
    · rw [announced_concat (ht.known hlt) (start_le log r)]
      exact ht.delivered.trans (List.sublist_append_left _ _)
    · rw [(ht.unknown (Nat.le_of_not_lt hlt)).2.1]
      exact List.nil_sublist _
  · have hp := hposition p hp
    obtain ⟨hstart, hle, hsub⟩ := ht.place p hp
    rw [hd, start_concat (ht.joined hp), passed_concat (ht.joined hp) (hr.sent ▸ hle)]
    exact ⟨hstart, Nat.le_trans hle hsent, hsub⟩

end Traced

/-- **A turn keeps a receiver on its trace**: what it got lies in order among what it passed. -/
theorem Turn.traced (t : b.Turn r u note b') (hr : Ring log b) (ht : Traced log b r) :
    Traced (log ++ [note]) b' r := by
  cases t with
  | told ev => exact ht.keep hr rfl rfl nofun (fun _ => id) (Nat.le_succ _) .rfl
  | joins hlength =>
    obtain ⟨hnot, hnone, -⟩ := ht.unknown (Nat.le_of_eq hlength)
    have hd : delivered (log ++ [.joined r]) r = [] := (delivered_keep rfl).trans hnone
    refine ⟨fun hlt => ?_, fun _ => List.mem_append_right _ List.mem_cons_self, ?_, fun p hp => ?_⟩
    · rw [length_subscribe] at hlt
      omega
    · rw [hd]
      exact List.nil_sublist _
    · rw [← hlength, position?_subscribe] at hp
      obtain rfl := Option.some.inj hp
      rw [hd, start_joined hnot]
      exact ⟨Nat.le_of_eq hr.sent, Nat.le_refl _, List.nil_sublist _⟩
  | leaves =>
    refine ht.keep hr rfl rfl nofun (fun p hp => ?_) (Nat.le_refl _) (by rw [leave, length_move])
    rw [position?_leave] at hp
    cases hp
  | gets _ hp hv =>
    obtain ⟨-, hlt, hget⟩ := hr.of_view_event hv
    obtain ⟨hstart, -, hsub⟩ := ht.place _ hp
    refine ht.moved hr hp rfl (Nat.le_succ _) hlt ?_
    rw [delivered_concat, Note.got?, if_pos rfl, passed_succ hstart hget]
    exact hsub.append (.refl _)
  | lags hp hv =>
    obtain ⟨-, hle, hsub⟩ := ht.place _ hp
    refine ht.moved hr hp rfl hle (Nat.le_refl _) ?_
    rw [delivered_keep rfl]
    exact hsub.trans (passed_mono log r hle)
  | slips hp hv =>
    obtain ⟨-, -, hsub⟩ := ht.place _ hp
    have hle := Nat.le_of_lt (of_view_lost hv).1
    refine ht.moved hr hp rfl hle (Nat.sub_le _ _) ?_
    rw [delivered_keep rfl]
    exact hsub.trans (passed_mono log r hle)
  | aside _ hn hu _ hjoined =>
    exact ht.keep hr hn.got hn.lost hn.joined (fun _ hp => hu.position ▸ hp)
      (Nat.le_of_eq hu.sent.symm) hjoined

/-- So does a whole run. -/
theorem run_traced (capacity : Nat) (uses : List Use) (r : Nat) :
    Ring (logged capacity uses) (after capacity uses)
      ∧ Traced (logged capacity uses) (after capacity uses) r := by
  induction uses using List.reverseRecOn with
  | nil => exact ⟨.start capacity, .start capacity r⟩
  | append_singleton uses u ih =>
    have t := (after capacity uses).turn r u
    rw [logged_concat, after_concat]
    exact ⟨t.ring ih.1, t.traced ih.1 ih.2⟩

/-- The room is the capacity rounded up to a power of two, at least one. -/
theorem run_room (capacity : Nat) (uses : List Use) :
    (after capacity uses).room = (max capacity 1).nextPowerOfTwo := by
  induction uses using List.reverseRecOn with
  | nil => rfl
  | append_singleton uses u ih =>
    rw [after_concat, ((after capacity uses).turn 0 u).room, ih]

/-! ## A receiver that is never too far behind -/

/-- A receiver has got all that lies behind it, and the window has not passed it. -/
structure Lossless (log : List Note) (b : Bus) (r : Nat) : Prop where
  lags : lags log r = []
  place : ∀ p, b.position? r = some p → b.oldest ≤ p ∧ delivered log r = passed log r p

/-- A turn loses nothing for a receiver that is not behind. -/
theorem Turn.lossless (t : b.Turn r u note b') (hr : Ring log b) (ht : Traced log b r)
    (hl : Lossless log b r)
    (hfew : ∀ ev, u = .publish ev →
      (announced log r).length < (delivered log r).length + b.room) :
    Lossless (log ++ [note]) b' r := by
  cases t with
  | told ev =>
    refine ⟨(lags_keep rfl).trans hl.lags, fun p hp => ?_⟩
    obtain ⟨hstart, hle, -⟩ := ht.place p hp
    obtain ⟨hoff, hd⟩ := hl.place p hp
    have hcount := hfew ev rfl
    rw [announced_eq, List.length_drop, hr.sent, hd, length_passed (hr.sent ▸ hle)] at hcount
    have hoff' := (hr.told ev).oldest_eq
    refine ⟨?_, ?_⟩
    · rw [hoff']
      show b.sent + 1 - b.room ≤ p
      omega
    · rw [delivered_keep rfl, hd, passed_concat (ht.joined hp) (hr.sent ▸ hle)]
  | joins hlength =>
    obtain ⟨hnot, hnone, hnolag⟩ := ht.unknown (Nat.le_of_eq hlength)
    refine ⟨(lags_keep rfl).trans hnolag, fun p hp => ?_⟩
    rw [← hlength, position?_subscribe] at hp
    obtain rfl := Option.some.inj hp
    refine ⟨Nat.sub_le _ _, ?_⟩
    rw [delivered_keep rfl, hnone, passed, start_joined hnot, hr.sent, List.drop_take_self]
  | leaves =>
    refine ⟨(lags_keep rfl).trans hl.lags, fun p hp => ?_⟩
    rw [position?_leave] at hp
    cases hp
  | gets _ hp hv =>
    refine ⟨(lags_keep rfl).trans hl.lags, fun q hq => ?_⟩
    rw [position?_move (lt_length_of_position hp)] at hq
    obtain rfl := Option.some.inj hq
    obtain ⟨hoff, hlt, hget⟩ := hr.of_view_event hv
    obtain ⟨hstart, hle, -⟩ := ht.place _ hp
    refine ⟨Nat.le_succ_of_le hoff, ?_⟩
    rw [delivered_concat, Note.got?, if_pos rfl, passed_concat (ht.joined hp) (hr.sent ▸ hlt),
      passed_succ hstart hget, (hl.place _ hp).2]
    rfl
  | lags hp hv | slips hp hv =>
    exact absurd (of_view_lost hv).1 (Nat.not_lt.2 (hl.place _ hp).1)
  | aside _ hn hu _ _ =>
    refine ⟨(lags_keep hn.lost).trans hl.lags, fun p hp => ?_⟩
    rw [hu.position] at hp
    obtain ⟨hoff, hd⟩ := hl.place p hp
    rw [oldest, hu.sent, hu.kept, delivered_keep hn.got,
      passed_concat (ht.joined hp) (hr.sent ▸ (ht.place p hp).2.1)]
    exact ⟨hoff, hd⟩

/-- **Whenever an event is sent, a receiver has fewer events before it than are kept.** -/
def Prompt (capacity : Nat) (uses : List Use) (r : Nat) : Prop :=
  ∀ n ev, uses[n]? = some (.publish ev) →
    (announced (logged capacity (uses.take n)) r).length
      < (delivered (logged capacity (uses.take n)) r).length + (max capacity 1).nextPowerOfTwo

/-- A prompt receiver was prompt before the last use. -/
theorem Prompt.init {capacity : Nat} {uses : List Use} (h : Prompt capacity (uses ++ [u]) r) :
    Prompt capacity uses r := by
  intro n ev hn
  have hlt := (List.getElem?_eq_some_iff.1 hn).1
  have hcount := h n ev (by rw [List.getElem?_append_left hlt, hn])
  rwa [List.take_append_of_le_length (Nat.le_of_lt hlt)] at hcount

/-- **A receiver that is never behind loses nothing.** -/
theorem Prompt.lossless {capacity : Nat} {uses : List Use} (h : Prompt capacity uses r) :
    Lossless (logged capacity uses) (after capacity uses) r := by
  induction uses using List.reverseRecOn with
  | nil => exact ⟨rfl, fun p hp => by simp [after, run, new, position?] at hp⟩
  | append_singleton uses u ih =>
    obtain ⟨hr, ht⟩ := run_traced capacity uses r
    rw [logged_concat, after_concat]
    refine ((after capacity uses).turn r u).lossless hr ht (ih h.init) fun ev hu => ?_
    have hcount := h uses.length ev (by rw [List.getElem?_concat_length, hu])
    rwa [List.take_left, ← run_room capacity uses] at hcount

/-- A receiver that waits and gets nothing is where the next event will be. -/
theorem of_receive_nothing (hr : Ring log b) (hp : b.position? r = some p)
    (hnothing : (b.use (.receive r)).1 = .nothing r) : b.sent ≤ p := by
  rcases b.use_receive r with ⟨_, _, -, -, hu⟩ | ⟨_, _, -, -, hu⟩ | ⟨hv, -⟩
  · rw [hu] at hnothing
    cases hnothing
  · rw [hu] at hnothing
    cases hnothing
  · exact hr.of_view_nothing (hv p hp)

/-- So is one that looks and gets nothing, unless it has lost something. -/
theorem of_look_nothing (hr : Ring log b) (hp : b.position? r = some p) (hoff : b.oldest ≤ p)
    (hnothing : (b.use (.look r)).1 = .nothing r) : b.sent ≤ p := by
  rcases b.use_look r with ⟨_, _, -, -, hu⟩ | ⟨p', _, hp', hv, -⟩ | ⟨hv, -⟩
  · rw [hu] at hnothing
    cases hnothing
  · obtain rfl := Option.some.inj (hp.symm.trans hp')
    exact absurd (of_view_lost hv).1 (Nat.not_lt.2 hoff)
  · exact hr.of_view_nothing (hv p hp)

/-- **A receiver gets events in order and none twice.**  Whatever is done at a bus: what a receiver
gets, be it that it waits or that it looks, is taken in order from the events sent since it has
joined, each under its own number.  If it is never too far behind when an event is sent, it is told
of no loss, and when there is nothing more for it, it has got them all. -/
theorem delivered_in_order (capacity : Nat) (uses : List Use) (r : Nat) :
    (delivered (logged capacity uses) r).Sublist (announced (logged capacity uses) r)
      ∧ (delivered (logged capacity uses) r).Pairwise (·.2 < ·.2)
      ∧ (Prompt capacity uses r →
          lags (logged capacity uses) r = []
          ∧ ∀ u, u = .receive r ∨ u = .look r → ((after capacity uses).use u).1 = .nothing r →
              (after capacity uses).position? r ≠ none →
              delivered (logged capacity uses) r = announced (logged capacity uses) r) := by
  obtain ⟨hr, ht⟩ := run_traced capacity uses r
  refine ⟨ht.delivered, ?_, fun hprompt => ⟨hprompt.lossless.lags, fun u hu hnothing hhere => ?_⟩⟩
  · have hsub : (announced (logged capacity uses) r).Sublist (sentIn (logged capacity uses)) :=
      announced_eq (logged capacity uses) r ▸ List.drop_sublist _ _
    exact hr.pairwise_sentIn.sublist (ht.delivered.trans hsub)
  · obtain ⟨p, hp⟩ := Option.ne_none_iff_exists'.1 hhere
    obtain ⟨hoff, hd⟩ := hprompt.lossless.place p hp
    have hsent : (after capacity uses).sent ≤ p := by
      rcases hu with rfl | rfl
      · exact of_receive_nothing hr hp hnothing
      · exact of_look_nothing hr hp hoff hnothing
    have hend : p = (sentIn (logged capacity uses)).length :=
      Nat.le_antisymm (hr.sent ▸ (ht.place p hp).2.1) (hr.sent ▸ hsent)
    rw [hd, hend, passed_of_length]

/-- Two receivers, of which one joins late and leaves early, and five events with room for four. -/
def desk : List Use :=
  [.subscribe, .publish (.started "1" "log"), .publish (.succeeded "1" "log" 0), .look 0,
   .subscribe, .publish (.started "2" "log"), .receive 1, .receive 0, .leave 1,
   .publish (.succeeded "2" "log" 4), .publish (.started "3" "log"), .look 0, .receive 0, .look 0]

/-- The first receiver keeps up with all that happens, the other gets what it is there for. -/
theorem delivered_in_order_desk :
    Prompt 3 desk 0 ∧ lags (logged 3 desk) 0 = []
      ∧ delivered (logged 3 desk) 0 = announced (logged 3 desk) 0
      ∧ (announced (logged 3 desk) 0).map (·.2) = [0, 1, 2, 3, 4]
      ∧ delivered (logged 3 desk) 1 = [(.started "2" "log", 2)] := by
  have hprompt : Prompt 3 desk 0 := by
    intro n ev hn
    have hall : ∀ n < desk.length, (announced (logged 3 (desk.take n)) 0).length
        < (delivered (logged 3 (desk.take n)) 0).length + (max 3 1).nextPowerOfTwo := by
      decide +kernel
    exact hall n (List.getElem?_eq_some_iff.1 hn).1
  obtain ⟨hlags, hall⟩ := (delivered_in_order 3 desk 0).2.2 hprompt
  exact ⟨hprompt, hlags, hall (.look 0) (.inr rfl) (by decide +kernel) (by decide +kernel),
    by decide +kernel, by decide +kernel⟩

end Bus

end RemoteScreen
