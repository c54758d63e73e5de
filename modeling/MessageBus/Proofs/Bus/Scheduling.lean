import MessageBus.Proofs.Broker.Schedule
import MessageBus.Proofs.Bus.TakingBack
import MessageBus.Proofs.Outgoing

/-!
# Scheduling

What scheduling dispatches does to the broker, also if the work is cancelled halfway. The messages
that get onto the schedule, page by page and group by group, are those that handles are given for;
taking the handles back leaves the schedule as it was.
-/

namespace MessageBus

open Outcome Broker

/-- A broker that asks to stop in some of its states. -/
def Broker.stopping (stop : Broker → Bool) : Transport Broker :=
  { Broker.transport with asksToStop := stop }

/-- A message to be scheduled, with its resource and the sender for it. -/
structure Booking where
  kind : EntityKind
  resourceId : String
  sender : Sender
  message : Message

namespace Booking

def handle (b : Booking) (number : Int) : ScheduledDispatch :=
  ⟨b.kind, b.resourceId, b.message.id, number⟩

def entry (due : Int) (b : Booking) (number : Int) : Scheduled :=
  ⟨number, b.sender.entity, b.message, due⟩

/-- Something made of each booking and its number, the first number given. -/
def numbered {α : Type} (f : Booking → Int → α) : Int → List Booking → List α
  | _, [] => []
  | n, b :: bs => f b n :: numbered f (n + 1) bs

def handles (first : Int) (bs : List Booking) : List ScheduledDispatch := numbered handle first bs

def entries (due first : Int) (bs : List Booking) : List Scheduled :=
  numbered (entry due) first bs

variable {α β : Type}

theorem numbered_append (f : Booking → Int → α) (first : Int) (xs ys : List Booking) :
    numbered f first (xs ++ ys) = numbered f first xs ++ numbered f (first + xs.length) ys := by
  induction xs generalizing first with
  | nil => simp [numbered]
  | cons x xs ih =>
    have hn : first + 1 + (xs.length : Int) = first + ((x :: xs).length : Int) := by
      simp only [List.length_cons]
      omega
    simp only [List.cons_append, numbered, ih, hn]

theorem handles_append (first : Int) (xs ys : List Booking) :
    handles first (xs ++ ys) = handles first xs ++ handles (first + xs.length) ys :=
  numbered_append handle first xs ys

theorem map_numbered (f : Booking → Int → α) (g : α → β) (first : Int) (bs : List Booking) :
    (numbered f first bs).map g = numbered (fun b n => g (f b n)) first bs := by
  induction bs generalizing first with
  | nil => rfl
  | cons b bs ih => simp only [numbered, List.map_cons, ih]

theorem numbered_eq_map (f : Booking → α) (first : Int) (bs : List Booking) :
    numbered (fun b _ => f b) first bs = bs.map f := by
  induction bs generalizing first with
  | nil => rfl
  | cons b bs ih => simp only [numbered, List.map_cons, ih]

theorem mem_numbered {f : Booking → Int → α} {first : Int} {bs : List Booking} {a : α}
    (h : a ∈ numbered f first bs) : ∃ b ∈ bs, ∃ n, first ≤ n ∧ a = f b n := by
  induction bs generalizing first with
  | nil => cases h
  | cons b bs ih =>
    rcases List.mem_cons.mp h with rfl | h
    · exact ⟨b, List.mem_cons_self .., first, Int.le_refl _, rfl⟩
    · obtain ⟨other, hother, n, hn, rfl⟩ := ih h
      exact ⟨other, List.mem_cons_of_mem _ hother, n, by omega, rfl⟩

theorem forall₂_numbered {R : α → β → Prop} {f : Booking → Int → α} {g : Booking → Int → β}
    {bs : List Booking} (h : ∀ b ∈ bs, ∀ n, R (f b n) (g b n)) (first : Int) :
    List.Forall₂ R (numbered f first bs) (numbered g first bs) := by
  induction bs generalizing first with
  | nil => exact .nil
  | cons b bs ih =>
    exact .cons (h b (List.mem_cons_self ..) first)
      (ih (fun other hother => h other (List.mem_cons_of_mem _ hother)) (first + 1))

theorem length_numbered (f : Booking → Int → α) (first : Int) (bs : List Booking) :
    (numbered f first bs).length = bs.length := by
  induction bs generalizing first with
  | nil => rfl
  | cons b bs ih => simp only [numbered, List.length_cons, ih]

theorem numbers_handles (due first : Int) (bs : List Booking) :
    (handles first bs).map (·.sequenceNumber) = scheduledNumbers (entries due first bs) := by
  simp only [scheduledNumbers, handles, entries, map_numbered]
  rfl

end Booking

def Group.bookings (g : Group) (ms : List Message) : List Booking :=
  ms.map fun m => ⟨g.kind, g.resourceId, g.sender, m⟩

theorem Group.bookings_append (g : Group) (xs ys : List Message) :
    g.bookings (xs ++ ys) = g.bookings xs ++ g.bookings ys := List.map_append

theorem Group.length_bookings (g : Group) (ms : List Message) :
    (g.bookings ms).length = ms.length := List.length_map _

theorem Group.entries_bookings (g : Group) (due first : Int) (ms : List Message) :
    Booking.entries due first (g.bookings ms) = scheduleEntries g.sender.entity due first ms := by
  induction ms generalizing first with
  | nil => rfl
  | cons m ms ih => exact congrArg _ (ih (first + 1))

theorem Group.handles_bookings (g : Group) (due first : Int) (ms : List Message) :
    ms.zipWith (fun m n => (⟨g.kind, g.resourceId, m.id, n⟩ : ScheduledDispatch))
        (scheduledNumbers (scheduleEntries g.sender.entity due first ms)) =
      Booking.handles first (g.bookings ms) := by
  induction ms generalizing first with
  | nil => rfl
  | cons m ms ih => exact congrArg _ (ih (first + 1))

def Broker.booked (b : Broker) (calls : List Operation) (due : Int) (bs : List Booking) : Broker :=
  { b with
    operations := b.operations ++ calls
    scheduled := b.scheduled ++ Booking.entries due b.sequence bs
    sequence := b.sequence + bs.length }

theorem Broker.booked_nil (b : Broker) (due : Int) : b.booked [] due [] = b := by
  simp [booked, Booking.entries, Booking.numbered]

theorem Broker.booked_booked (b : Broker) (calls calls' : List Operation) (due : Int)
    (bs bs' : List Booking) :
    (b.booked calls due bs).booked calls' due bs' = b.booked (calls ++ calls') due (bs ++ bs') := by
  have hn : b.sequence + (bs.length : Int) + bs'.length =
      b.sequence + ((bs ++ bs').length : Int) := by
    simp only [List.length_append]
    omega
  simp only [booked, Booking.entries, Booking.numbered_append, List.append_assoc, hn]

namespace Bus

def pageProblem? (stop : Broker → Bool) (w : World Broker) (g : Group) : Option DispatchError :=
  if w.cancelled || stop w.transport then some .cancelled
  else (w.transport.sendProblem? g.sender).map (.transport g.resourceId)

theorem opened_of_pageProblem? {stop : Broker → Bool} {w : World Broker} {g : Group}
    (h : pageProblem? stop w g = none) : g.sender.id ∉ w.transport.closed := by
  intro closed
  rw [pageProblem?] at h
  split at h
  · cases h
  · rw [sendProblem?, if_pos closed] at h
    cases h

theorem schedulePage_eq (stop : Broker → Bool) (g : Group) (due : Int) (page : List Message)
    (w : World Broker) :
    schedulePage (stopping stop) g due page w =
      match pageProblem? stop w g with
      | some problem => (.error problem, w)
      | none =>
        (.ok (Booking.handles w.transport.sequence (g.bookings page)), { w with
          transport := w.transport.booked [.schedule g.sender.entity (ids page) due] due
            (g.bookings page)
          trace := w.trace ++
            [.log (.pageScheduled g.kind g.resourceId page.length due)] }) := by
  have checked : checkCancelled (stopping stop) w =
      if w.cancelled || stop w.transport then (.error .cancelled, w) else (.ok (), w) :=
    checkCancelled_eq (stopping stop) w
  rw [schedulePage, pageProblem?, bind_apply, checked]
  by_cases cancelled : (w.cancelled || stop w.transport) = true
  · simp only [cancelled, if_true]
  · simp only [cancelled, Bool.false_eq_true, if_false]
    rw [bind_apply, World.raising_apply, World.call_apply]
    simp only [stopping, Broker.transport, schedule_eq]
    cases w.transport.sendProblem? g.sender with
    | some problem => rfl
    | none =>
      have numbers := g.handles_bookings due w.transport.sequence page
      have entries := g.entries_bookings due w.transport.sequence page
      have length := g.length_bookings page
      have as_many : (scheduledNumbers
          (scheduleEntries g.sender.entity due w.transport.sequence page)).length =
          page.length := by
        rw [← entries, scheduledNumbers, List.length_map, Booking.entries,
          Booking.length_numbered, length]
      simp only [scheduledNumbers] at numbers as_many
      simp only [mapError_ok, as_many, ne_eq, not_true_eq_false, if_false, numbers,
        bind_ok (World.log_apply _ _), pure_apply, Option.map_none]
      simp only [World.add, booked, record, entries, length]

/-- Progress over bookings: some of them are made, in order, and all of them unless there is a
problem. Handles are given for those that are made, and the schedule gets nothing else. -/
structure Made (due : Int) (all done : List Booking) (before : Broker) (p : Progress)
    (after : Broker) : Prop where
  among : done.Sublist all
  complete : p.2 = none → done = all
  opened : ∀ b ∈ done, b.sender.id ∉ before.closed
  handles : p.1 = Booking.handles before.sequence done
  booked : ∃ calls, after = before.booked calls due done
  problem : ∀ problem ∈ p.2, problem = .cancelled ∨ ∃ id source, problem = .transport id source

theorem Made.nothing (due : Int) (before : Broker) : Made due [] [] before ([], none) before where
  among := .refl _
  complete := fun _ => rfl
  opened := by simp
  handles := rfl
  booked := ⟨[], (before.booked_nil due).symm⟩
  problem := by simp

theorem Made.refused {stop : Broker → Bool} {w : World Broker} {g : Group}
    {problem : DispatchError} (h : pageProblem? stop w g = some problem) (due : Int)
    (all : List Booking) : Made due all [] w.transport ([], some problem) w.transport where
  among := List.nil_sublist _
  complete := by simp
  opened := by simp
  handles := rfl
  booked := ⟨[], (w.transport.booked_nil due).symm⟩
  problem := by
    intro other hother
    obtain rfl : problem = other := Option.some.inj hother
    rw [pageProblem?] at h
    split at h
    · exact .inl (Option.some.inj h).symm
    · obtain ⟨source, -, heq⟩ := Option.map_eq_some_iff.mp h
      exact .inr ⟨_, _, heq.symm⟩

theorem Made.append {due : Int} {all all' done done' : List Booking} {before between after : Broker}
    {p q : Progress} (first : Made due all done before p between)
    (second : Made due all' done' between q after) :
    Made due (all ++ all') (done ++ done') before (p.1 ++ q.1, p.2 <|> q.2) after := by
  obtain ⟨given, problem⟩ := p
  obtain ⟨given', problem'⟩ := q
  obtain ⟨calls, hbetween⟩ := first.booked
  obtain ⟨calls', hafter⟩ := second.booked
  constructor
  case among => exact first.among.append second.among
  case complete =>
    intro h
    cases problem with
    | some _ => cases h
    | none => rw [first.complete rfl, second.complete h]
  case opened =>
    intro b hb
    rcases List.mem_append.mp hb with hb | hb
    · exact first.opened b hb
    · have := second.opened b hb
      rwa [hbetween] at this
  case handles =>
    have next : between.sequence = before.sequence + done.length := by rw [hbetween]; rfl
    have hgiven : given = _ := first.handles
    have hgiven' : given' = _ := second.handles
    rw [hgiven, hgiven', next, Booking.handles_append]
  case booked => exact ⟨calls ++ calls', by rw [hafter, hbetween, booked_booked]⟩
  case problem =>
    intro other h
    cases problem with
    | some _ => exact first.problem other h
    | none => exact second.problem other h

theorem schedulePages_cons_of_refused {stop : Broker → Bool} {w : World Broker} {g : Group}
    {problem : DispatchError} (h : pageProblem? stop w g = some problem) (due : Int)
    (page : List Message) (rest : List (List Message)) :
    schedulePages (stopping stop) g due (page :: rest) w = (([], some problem), w) := by
  have first := schedulePage_eq stop g due page w
  rw [h] at first
  rw [schedulePages, state_bind_apply, ExceptT.run, first]
  rfl

theorem schedulePages_cons {stop : Broker → Bool} {w : World Broker} {g : Group}
    (h : pageProblem? stop w g = none) (due : Int) (page : List Message)
    (rest : List (List Message)) :
    ∃ calls trace,
      let w' : World Broker := { w with
        transport := w.transport.booked calls due (g.bookings page), trace := trace }
      let others := schedulePages (stopping stop) g due rest w'
      schedulePages (stopping stop) g due (page :: rest) w =
        ((Booking.handles w.transport.sequence (g.bookings page) ++ others.1.1, others.1.2),
          others.2) := by
  have first := schedulePage_eq stop g due page w
  rw [h] at first
  refine ⟨[.schedule g.sender.entity (ids page) due], w.trace ++
    [.log (.pageScheduled g.kind g.resourceId page.length due)], ?_⟩
  rw [schedulePages, state_bind_apply, ExceptT.run, first]
  rfl

theorem Made.page {stop : Broker → Bool} {w : World Broker} {g : Group}
    (h : pageProblem? stop w g = none) (calls : List Operation) (due : Int) (page : List Message) :
    Made due (g.bookings page) (g.bookings page) w.transport
      (Booking.handles w.transport.sequence (g.bookings page), none)
      (w.transport.booked calls due (g.bookings page)) where
  among := .refl _
  complete := fun _ => rfl
  opened := fun b hb => by
    obtain ⟨m, -, rfl⟩ := List.mem_map.mp hb
    exact opened_of_pageProblem? h
  handles := rfl
  booked := ⟨calls, rfl⟩
  problem := by simp

theorem schedulePages_made (stop : Broker → Bool) (g : Group) (due : Int)
    (pages : List (List Message)) (w : World Broker) :
    ∃ done, Made due (g.bookings pages.flatten) done w.transport
      (schedulePages (stopping stop) g due pages w).1
      (schedulePages (stopping stop) g due pages w).2.transport := by
  induction pages generalizing w with
  | nil => exact ⟨[], .nothing due _⟩
  | cons page rest ih =>
    cases h : pageProblem? stop w g with
    | some problem =>
      rw [schedulePages_cons_of_refused h]
      exact ⟨[], .refused h due _⟩
    | none =>
      obtain ⟨calls, trace, heq⟩ := schedulePages_cons h due page rest
      obtain ⟨done, others⟩ := ih { w with
        transport := w.transport.booked calls due (g.bookings page), trace := trace }
      have both := (Made.page h calls due page).append others
      rw [heq, List.flatten_cons, Group.bookings_append]
      exact ⟨_, both⟩

theorem scheduleGroups_cons (stop : Broker → Bool) (bus : Bus) (due : Int) (g : Group)
    (rest : List Group) (w : World Broker) :
    let first := schedulePages (stopping stop) g due
      (paginate bus.settings.pageSize.toNat g.messages) w
    let others := scheduleGroups (stopping stop) bus due rest first.2
    scheduleGroups (stopping stop) bus due (g :: rest) w =
      ((first.1.1 ++ others.1.1, first.1.2 <|> others.1.2), others.2) := rfl

theorem scheduleGroups_made (stop : Broker → Bool) (bus : Bus) (due : Int) (groups : List Group)
    (w : World Broker) :
    ∃ done, Made due (groups.flatMap fun g => g.bookings g.messages) done w.transport
      (scheduleGroups (stopping stop) bus due groups w).1
      (scheduleGroups (stopping stop) bus due groups w).2.transport := by
  induction groups generalizing w with
  | nil => exact ⟨[], .nothing due _⟩
  | cons g rest ih =>
    let pages := paginate bus.settings.pageSize.toNat g.messages
    obtain ⟨done, first⟩ := schedulePages_made stop g due pages w
    obtain ⟨done', others⟩ := ih (schedulePages (stopping stop) g due pages w).2
    rw [flatten_paginate] at first
    exact ⟨done ++ done', first.append others⟩

abbrev steady : Broker → Bool := fun _ => false

theorem pageProblem?_booked (w : World Broker) (calls : List Operation) (due : Int)
    (bs : List Booking) (trace : List TraceEntry) (g : Group) :
    pageProblem? steady { w with transport := w.transport.booked calls due bs, trace := trace } g =
      pageProblem? steady w g := rfl

theorem schedulePages_steady {w : World Broker} {g : Group} (h : pageProblem? steady w g = none)
    (due : Int) (pages : List (List Message)) :
    ∃ calls trace, schedulePages (stopping steady) g due pages w =
      ((Booking.handles w.transport.sequence (g.bookings pages.flatten), none), { w with
        transport := w.transport.booked calls due (g.bookings pages.flatten)
        trace := trace }) := by
  induction pages generalizing w with
  | nil =>
    refine ⟨[], w.trace, ?_⟩
    rw [List.flatten_nil, Group.bookings, List.map_nil, booked_nil]
    rfl
  | cons page rest ih =>
    obtain ⟨calls, trace, heq⟩ := schedulePages_cons h due page rest
    -- One page on the schedule keeps nothing from being scheduled behind it.
    have free := (pageProblem?_booked w calls due (g.bookings page) trace g).trans h
    obtain ⟨calls', trace', others⟩ := ih free
    refine ⟨calls ++ calls', trace', ?_⟩
    rw [heq, others, List.flatten_cons, Group.bookings_append, ← booked_booked,
      Booking.handles_append]
    rfl

/-- The groups that nothing keeps from being scheduled, as bookings. -/
def bookable (w : World Broker) (groups : List Group) : List Booking :=
  (groups.filter fun g => (pageProblem? steady w g).isNone).flatMap fun g => g.bookings g.messages

theorem scheduleGroups_steady (bus : Bus) (due : Int) {groups : List Group}
    (some_message : ∀ g ∈ groups, g.messages ≠ []) (w : World Broker) :
    ∃ calls trace, scheduleGroups (stopping steady) bus due groups w =
      ((Booking.handles w.transport.sequence (bookable w groups),
          groups.findSome? (pageProblem? steady w)), { w with
        transport := w.transport.booked calls due (bookable w groups)
        trace := trace }) := by
  induction groups generalizing w with
  | nil =>
    refine ⟨[], w.trace, ?_⟩
    rw [bookable, List.filter_nil, List.flatMap_nil, booked_nil]
    rfl
  | cons g rest ih =>
    have others := ih (fun g h => some_message g (List.mem_cons_of_mem _ h))
    have all_pages := flatten_paginate bus.settings.pageSize.toNat g.messages
    cases h : pageProblem? steady w g with
    | some problem =>
      obtain ⟨calls, trace, heq⟩ := others w
      obtain ⟨page, more, hpages⟩ :=
        exists_page bus.settings.pageSize.toNat (some_message g (List.mem_cons_self ..))
      refine ⟨calls, trace, ?_⟩
      rw [scheduleGroups_cons, hpages, schedulePages_cons_of_refused h, heq, List.findSome?_cons, h,
        bookable, bookable, List.filter_cons, h]
      rfl
    | none =>
      obtain ⟨calls, trace, first⟩ :=
        schedulePages_steady h due (paginate bus.settings.pageSize.toNat g.messages)
      rw [all_pages] at first
      let between : World Broker := { w with
        transport := w.transport.booked calls due (g.bookings g.messages), trace := trace }
      obtain ⟨calls', trace', heq⟩ := others between
      have more : bookable w (g :: rest) = g.bookings g.messages ++ bookable between rest := by
        rw [bookable, List.filter_cons, h]
        rfl
      refine ⟨calls ++ calls', trace', ?_⟩
      rw [scheduleGroups_cons, first, heq, List.findSome?_cons, h, more, ← booked_booked,
        Booking.handles_append]
      rfl

end Bus

end MessageBus
