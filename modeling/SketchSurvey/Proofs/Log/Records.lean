import SketchSurvey.Proofs.Log.Delivery

/-! Where records go: whatever the listener has got done at any time, every record ends up once in each of
the sinks that were in force when it was logged, in no other, and behind the records before it. -/

set_option autoImplicit false

namespace SketchSurvey.Log

open SketchSurvey.Files SketchSurvey.Text.Utf8

/-- What a record adds to the console under what is in force, if anything is. -/
def shownUnder (inForce : Option InForce) (r : Record) : List (Channel × String) :=
  inForce.elim [] (·.shown r)

/-- What a record adds to the file in a place under what is in force, if anything is. -/
def writtenUnder (inForce : Option InForce) (now : Moment) (location : Location) (r : Record) : Bytes :=
  inForce.elim [] (·.written now location r)

namespace Event

/-- What an event adds to standard error, where the console is and where records are shown bare. Where
others have attached their handlers, a record that no setup takes is left to them. -/
def shown (e : Event) : List (Channel × String) :=
  match e.step with
  | .log r =>
    if r.level < e.before.logging.level then []
    else if e.before.logging.attached = 1 then shownUnder e.inForce r
    else if e.before.logging.others = [] ∧ Level.warning ≤ r.level then [(.error, r.message ++ "\n")]
    else []
  | .configure setup force =>
    if e.inForce.isSome && !force then [] else (e.before.readyFor setup).notices setup
  | .shutdown | .listen => []

/-- What an event adds to the file in a place. -/
def written (location : Location) (e : Event) : Bytes :=
  match e.step with
  | .log r =>
    if r.level < e.before.logging.level then []
    else if e.before.logging.attached = 1 then writtenUnder e.inForce e.before.now location r
    else []
  | .configure .. | .shutdown | .listen => []

end Event

/-- Every setup of a history, also one that is passed over, is of some kind. -/
def EachSetup (events : List Event) (kind : Setup → Prop) : Prop :=
  ∀ e ∈ events, ∀ setup force, e.step = .configure setup force → kind setup

/-- The records in the queue never find the log file full. -/
def Session.HasRoom (s : Session) : Prop :=
  ∀ l, s.logging.listener = some l → l.sinks.HasRoom s l.pending

section Unlimited

variable {start s : Session} {events : List Event} {inForce : Option InForce} {sinks : Sinks}

/-- A file without a limit is never full. -/
theorem hasRoom_of_unlimited (unlimited : ∀ {file}, sinks.file = some file → file.maxBytes ≤ 0)
    (records : List Record) : sinks.HasRoom s records := by
  induction records generalizing s with
  | nil => trivial
  | cons r rest ih =>
      refine ⟨fun file text isFile _ => ?_, ih⟩
      have zero := unlimited isFile
      unfold FileSink.isFull
      split <;> simp <;> omega

/-- The log file of a listener, if it has one, has no limit. -/
def Logging.Unlimited (l : Logging) : Prop :=
  ∀ listener file, l.listener = some listener → listener.sinks.file = some file → file.maxBytes ≤ 0

theorem Logging.unlimited_of_none {l : Logging} (gone : l.listener = none) : l.Unlimited := by
  intro listener file listening
  rw [gone] at listening
  cases listening

theorem Logging.Unlimited.ofListener {l : Logging} (unlimited : l.Unlimited)
    {change : Listener → Listener} (keeps : ∀ listener, (change listener).sinks = listener.sinks) :
    Logging.Unlimited { l with listener := l.listener.map change } := by
  intro listener file listening isFile
  obtain ⟨before, listening', rfl⟩ := Option.map_eq_some_iff.mp listening
  rw [keeps] at isFile
  exact unlimited before file listening' isFile

theorem Setup.unlimited_logging {setup : Setup} (unlimited : setup.maxBytes ≤ 0) (working : String)
    (opens : Bool) (others : List Handler) : (setup.logging working opens others).Unlimited := by
  intro listener file listening isFile
  have isSinks : listener.sinks = setup.sinks working opens := by
    rw [Setup.logging] at listening
    dsimp only at listening
    split at listening
    · rw [← Option.some.inj listening]
    · cases listening
  rw [isSinks, Setup.sinks] at isFile
  obtain ⟨path, -, made⟩ := Option.bind_eq_some_iff.mp isFile
  obtain ⟨layout, -, rfl⟩ := Option.map_eq_some_iff.mp made
  exact unlimited

theorem History.unlimited (down : start.logging.IsDown) (history : History start events s inForce)
    (kind : EachSetup events (·.maxBytes ≤ 0)) :
    (∀ e ∈ events, e.before.logging.Unlimited) ∧ s.logging.Unlimited := by
  induction history with
  | start => exact ⟨List.forall_mem_nil _, Logging.unlimited_of_none down.listener⟩
  | @configure _ s _ setup _ _ _ returned ih =>
      simp only [EachSetup, List.forall_mem_append, List.forall_mem_singleton] at kind ⊢
      refine ⟨ih kind.1, ?_⟩
      rcases configure_cases returned with ⟨-, -, rfl⟩ | ⟨-, logging⟩
      · exact (ih kind.1).2
      · rw [logging]
        exact Setup.unlimited_logging (kind.2 _ _ rfl) _ _ _
  | @log _ s _ r _ ih =>
      simp only [EachSetup, List.forall_mem_append, List.forall_mem_singleton] at kind ⊢
      obtain ⟨change, keeps, logging⟩ := logging_log s r
      rw [logging]
      exact ⟨ih kind.1, (ih kind.1).2.ofListener keeps⟩
  | @shutdown _ s _ _ ih =>
      simp only [EachSetup, List.forall_mem_append, List.forall_mem_singleton] at kind ⊢
      exact ⟨ih kind.1, Logging.unlimited_of_none (by rw [s.logging_shutdown])⟩
  | @listen _ s _ _ ih =>
      simp only [EachSetup, List.forall_mem_append, List.forall_mem_singleton] at kind ⊢
      obtain ⟨change, keeps, logging⟩ := logging_writeOldest s
      rw [logging]
      exact ⟨ih kind.1, (ih kind.1).2.ofListener keeps⟩

/-- Where no log file has a limit, there is always room. -/
theorem History.hasRoom (down : start.logging.IsDown) (history : History start events s inForce)
    (kind : EachSetup events (·.maxBytes ≤ 0)) : (∀ e ∈ events, e.before.HasRoom) ∧ s.HasRoom := by
  have room {s : Session} (unlimited : s.logging.Unlimited) : s.HasRoom := fun l listening =>
    hasRoom_of_unlimited (unlimited l _ listening) l.pending
  obtain ⟨before, now⟩ := history.unlimited down kind
  exact ⟨fun e member => room (before e member), room now⟩

end Unlimited

/-- The records in the queue. -/
def Session.queued (s : Session) : List Record := s.logging.listener.elim [] (·.pending)

/-- A listener writes for what is in force, and no record in its queue is too light for its sinks. -/
structure Listener.Serves (l : Listener) (files : FileSystem) (f : InForce) : Prop where
  sinks : l.sinks.Serve files f
  heavy : ∀ r ∈ l.pending, l.sinks.level ≤ r.level

/-- What a history leads to: all that its events add is there or in the queue. -/
structure Session.Accounted (start : Session) (events : List Event) (s : Session)
    (inForce : Option InForce) : Prop where
  level : 0 < s.logging.level
  configured : s.logging.configured = inForce.isSome
  serves : ∀ {l}, s.logging.listener = some l →
    l.sinks.level = s.logging.level ∧ ∃ f, inForce = some f ∧ l.Serves s.files f
  shown : s.shown ++ s.queued.flatMap (shownUnder inForce) = start.shown ++ events.flatMap Event.shown
  written : ∀ location,
    s.files.bytesAt location ++ s.queued.flatMap (writtenUnder inForce s.now location) =
      start.files.bytesAt location ++ events.flatMap (Event.written location)

section Accounts

variable {start s t : Session} {events : List Event} {inForce : Option InForce}

/-- Who stops listening writes the records in the queue. -/
theorem adds_stopListening (serves : ∀ {l}, s.logging.listener = some l →
    ∃ f, inForce = some f ∧ l.Serves s.files f) (room : s.HasRoom) :
    s.Adds s.stopListening (s.queued.flatMap (shownUnder inForce))
      (fun location => s.queued.flatMap (writtenUnder inForce s.now location)) := by
  unfold Session.stopListening Session.queued
  cases listening : s.logging.listener with
  | none => exact .nothing rfl fun _ => rfl
  | some l =>
      obtain ⟨f, rfl, served⟩ := serves listening
      have adds := (deliverAll_spec served.sinks served.heavy (room l listening)).1
      exact ⟨adds.shown, adds.written⟩

/-- Once the queue is empty, all that the events add is there. -/
theorem Session.Accounted.settle (accounted : start.Accounted events s inForce)
    (adds : s.Adds t (s.queued.flatMap (shownUnder inForce))
      (fun location => s.queued.flatMap (writtenUnder inForce s.now location))) :
    start.Adds t (events.flatMap Event.shown) (fun location => events.flatMap (Event.written location)) where
  shown := by rw [adds.shown, accounted.shown]
  written location := by rw [adds.written, accounted.written]

/-- A session that waits for nothing accounts for what was added on the way to it. -/
theorem Session.Adds.accounted {e : Event} (adds : start.Adds s (events.flatMap Event.shown)
      (fun location => events.flatMap (Event.written location)))
    (next : s.Adds t e.shown (e.written ·)) (level : 0 < t.logging.level)
    (configured : t.logging.configured = inForce.isSome) (idle : t.queued = [])
    (serves : ∀ {l}, t.logging.listener = some l →
      l.sinks.level = t.logging.level ∧ ∃ f, inForce = some f ∧ l.Serves t.files f) :
    start.Accounted (events ++ [e]) t inForce where
  level := level
  configured := configured
  serves := serves
  shown := by
    rw [idle, List.flatMap_nil, List.append_nil, (adds.trans next).shown]
    simp
  written location := by
    rw [idle, List.flatMap_nil, List.append_nil, (adds.trans next).written]
    simp

/-- A step that adds nothing and changes nothing. -/
theorem Session.Accounted.pass {e : Event} (accounted : start.Accounted events s inForce)
    (shown : e.shown = []) (written : ∀ location, e.written location = []) :
    start.Accounted (events ++ [e]) s inForce :=
  { accounted with
    shown := by simpa [shown] using accounted.shown
    written := fun location => by simpa [written] using accounted.written location }

theorem Level.ofName_pos (name : String) : 0 < Level.ofName name := by
  unfold Level.ofName
  split <;> decide

/-- What was set up before a setup is taken down: its records are written first. -/
theorem adds_readyFor (accounted : start.Accounted events s inForce) (room : s.HasRoom)
    (setup : Setup) : start.Adds (s.readyFor setup) (events.flatMap Event.shown)
      (fun location => events.flatMap (Event.written location)) := by
  unfold Session.readyFor Session.reset
  generalize Level.ofName setup.level = level
  have detached : Session.HasRoom { s with logging := { s.logging with level } }.detach := by
    intro l listening
    refine hasRoom_congr ?_ ?_ (room l listening) <;> rfl
  have adds := adds_stopListening
    (s := { s with logging := { s.logging with level } }.detach)
    (fun listening => (accounted.serves listening).2) detached
  exact accounted.settle ⟨adds.shown, adds.written⟩

/-- Opening the sinks of a setup, when all is written that was logged before it. -/
theorem accounted_attach {setup : Setup} {force : Bool} {sinks : Sinks}
    (before : start.Adds (s.readyFor setup) (events.flatMap Event.shown)
      (fun location => events.flatMap (Event.written location)))
    (acts : ¬ (inForce.isSome && !force) = true) (standard : setup.HasStandardFormats)
    (opened : (s.readyFor setup).openSinks setup = (t, .ok sinks)) :
    start.Accounted (events ++ [⟨s, inForce, .configure setup force⟩]) (t.attach sinks)
      (some { setup, file := if (s.readyFor setup).opens setup then (t.attach sinks).logFilePlace setup
        else none }) := by
  have adds := adds_openSinks opened
  have serve := serve_openSinks standard opened
  have place : t.logFilePlace setup = (t.attach sinks).logFilePlace setup := by
    rw [Session.logFilePlace, Session.logFilePlace, Session.files_attach]
  rw [place, ← Session.files_attach t sinks] at serve
  have level : sinks.level = Level.ofName setup.level := by
    rw [(sinks_of_openSinks opened).1, Setup.sinks]
  have logging : t.logging = { s.logging with
      level := Level.ofName setup.level, handlers := s.logging.others, listener := none } := by
    have writes := ((s.readyFor setup).writes_openSinks setup).logging
    rw [opened] at writes
    rw [writes, Session.readyFor, s.logging_reset]
  have next : (s.readyFor setup).Adds (t.attach sinks)
      (Event.shown ⟨s, inForce, .configure setup force⟩)
      (Event.written · ⟨s, inForce, .configure setup force⟩) := by
    simp only [Event.shown, Event.written, if_neg acts]
    unfold Session.attach
    split <;> exact ⟨adds.shown, adds.written⟩
  have positive := Level.ofName_pos setup.level
  generalize Level.ofName setup.level = n at level logging positive
  refine before.accounted next ?_ ?_ ?_ ?_
  · unfold Session.attach
    split <;> simpa [logging] using positive
  · unfold Session.attach
    split <;> rfl
  · unfold Session.attach
    split <;> simp [Session.queued, logging]
  · intro l listening
    have isListener : l = { sinks } ∧ l.sinks.level = (t.attach sinks).logging.level := by
      unfold Session.attach at listening ⊢
      split at listening
      · simp [logging] at listening
      · next some' =>
          simp only [Option.some.injEq] at listening
          subst listening
          exact ⟨rfl, by simp only [if_neg some', level, logging]⟩
    obtain ⟨rfl, same⟩ := isListener
    exact ⟨same, _, rfl, serve, List.forall_mem_nil _⟩

theorem Session.Accounted.configure {setup : Setup} {force : Bool}
    (accounted : start.Accounted events s inForce) (room : s.HasRoom)
    (standard : setup.HasStandardFormats) (returned : s.configure setup force = (t, .ok ())) :
    start.Accounted (events ++ [⟨s, inForce, .configure setup force⟩]) t
      (s.inForceAfter t inForce setup force) := by
  rw [Session.inForceAfter]
  rw [Session.configure, accounted.configured] at returned
  by_cases passed : (inForce.isSome && !force) = true
  · rw [if_pos passed, Prod.mk.injEq] at returned
    rw [if_pos passed, ← returned.1]
    exact accounted.pass (by simp only [Event.shown, if_pos passed]) fun _ => rfl
  · rw [if_neg passed, ← Session.readyFor] at returned
    rw [if_neg passed]
    split at returned
    · next u sinks opened =>
        simp only [Prod.mk.injEq, and_true] at returned
        subst returned
        exact accounted_attach (adds_readyFor accounted room setup) passed standard opened
    · simp at returned

/-- A record that is not passed over joins the queue, if there is one. -/
theorem accounted_enqueue {r : Record} (accounted : start.Accounted events s inForce)
    (heavy : s.logging.level ≤ r.level) (attached : s.logging.attached = 1)
    (listening : s.logging.listener.isSome) :
    start.Accounted (events ++ [⟨s, inForce, .log r⟩]) (s.enqueue r) inForce := by
  obtain ⟨l, isListener⟩ := Option.isSome_iff_exists.mp listening
  have queued : (s.enqueue r).queued = s.queued ++ [r] := by
    simp [Session.queued, Session.enqueue, isListener]
  have shown : Event.shown ⟨s, inForce, .log r⟩ = shownUnder inForce r := by
    simp [Event.shown, Int.not_lt.mpr heavy, attached]
  have written (location : Location) :
      Event.written location ⟨s, inForce, .log r⟩ = writtenUnder inForce s.now location r := by
    simp [Event.written, Int.not_lt.mpr heavy, attached]
  obtain ⟨level, f, same, served⟩ := accounted.serves isListener
  refine ⟨accounted.level, accounted.configured, ?_, ?_, ?_⟩
  · intro l' listening'
    simp only [Session.enqueue, isListener, Option.map_some, Option.some.injEq] at listening'
    subst listening'
    refine ⟨level, f, same, served.sinks, fun r' waits => ?_⟩
    rcases List.mem_append.mp waits with before | last
    · exact served.heavy r' before
    · rw [List.mem_singleton.mp last, level]
      exact heavy
  · rw [queued, List.flatMap_append, List.flatMap_append, List.flatMap_singleton, List.flatMap_singleton,
      shown, ← List.append_assoc, ← List.append_assoc, ← accounted.shown]
    rfl
  · intro location
    rw [queued, List.flatMap_append, List.flatMap_append, List.flatMap_singleton, List.flatMap_singleton,
      written, ← List.append_assoc, ← List.append_assoc, ← accounted.written]
    rfl

/-- A record that no handler takes is shown bare if it is heavy enough. -/
theorem accounted_bare {r : Record} (accounted : start.Accounted events s inForce)
    (fits : s.logging.Fits) (heavy : ¬ r.level < s.logging.level) (none' : s.logging.handlers = []) :
    start.Accounted (events ++ [⟨s, inForce, .log r⟩])
      (if r.level ≥ Level.warning then s.say .error (r.message ++ "\n") else s) inForce := by
  have attached : s.logging.attached = 0 := by rw [Logging.attached, none', List.count_nil]
  have others : s.logging.others = [] := by rw [Logging.others, none', List.filter_nil]
  have queued : s.queued = [] := by
    have idle : s.logging.listener = none := by simpa [attached] using fits.listening
    rw [Session.queued, idle, Option.elim_none]
  have unwritten (location : Location) : Event.written location ⟨s, inForce, .log r⟩ = [] := by
    simp [Event.written, heavy, attached]
  split
  · next warns =>
      have shown : Event.shown ⟨s, inForce, .log r⟩ = [(.error, r.message ++ "\n")] := by
        simp [Event.shown, heavy, attached, others, show Level.warning ≤ r.level from warns]
      refine ⟨accounted.level, accounted.configured, accounted.serves, ?_, fun location => ?_⟩
      · have before := accounted.shown
        rw [queued, List.flatMap_nil, List.append_nil] at before
        change (s.shown ++ [(.error, r.message ++ "\n")]) ++ s.queued.flatMap _ = _
        rw [queued, List.flatMap_nil, List.append_nil, before, List.flatMap_append, List.flatMap_singleton,
          shown, List.append_assoc]
      · rw [List.flatMap_append, List.flatMap_singleton, unwritten, List.append_nil, ← accounted.written]
        rfl
  · next quiet =>
      have unshown : Event.shown ⟨s, inForce, .log r⟩ = [] := by
        simp [Event.shown, heavy, attached, others, show ¬ Level.warning ≤ r.level from quiet]
      exact accounted.pass unshown unwritten

theorem Session.Accounted.log (accounted : start.Accounted events s inForce) (fits : s.logging.Fits)
    (r : Record) : start.Accounted (events ++ [⟨s, inForce, .log r⟩]) (s.log r) inForce := by
  have ignored : s.ignores r = true ↔ r.level < s.logging.level := by
    have level := accounted.level
    rw [Session.ignores, Bool.or_eq_true, decide_eq_true_eq, decide_eq_true_eq]
    omega
  unfold Session.log
  split
  · next light =>
      have light := ignored.mp light
      exact accounted.pass (by simp [Event.shown, light]) fun _ => by simp [Event.written, light]
  · next heavy =>
      rw [ignored] at heavy
      split
      · next bare => exact accounted_bare accounted fits heavy (List.isEmpty_iff.mp bare)
      · next some' =>
          split
          · next bound =>
              have attached : s.logging.attached = 1 := by
                have := List.count_pos_iff.mpr (List.contains_iff_mem.mp bound)
                exact Nat.le_antisymm fits.attached_le this
              exact accounted_enqueue accounted (Int.not_lt.mp heavy) attached
                (fits.listening.mp attached)
          · next unbound =>
              have unattached : s.logging.attached = 0 :=
                List.count_eq_zero.mpr fun bound => unbound (List.contains_iff_mem.mpr bound)
              have others : s.logging.others ≠ [] := by
                obtain ⟨handler, isHandler⟩ := List.exists_mem_of_ne_nil _
                  fun none' => some' (List.isEmpty_iff.mpr none')
                refine List.ne_nil_of_mem (List.mem_filter.mpr ⟨isHandler, ?_⟩)
                rw [bne_iff_ne]
                rintro rfl
                exact unbound (List.contains_iff_mem.mpr isHandler)
              exact accounted.pass (by simp [Event.shown, unattached, others])
                fun _ => by simp [Event.written, unattached]

/-- Shutting down writes what is in the queue. -/
theorem Session.Accounted.adds_shutdown (accounted : start.Accounted events s inForce)
    (room : s.HasRoom) : start.Adds s.shutdown (events.flatMap Event.shown)
      (fun location => events.flatMap (Event.written location)) := by
  have adds := adds_stopListening (fun listening => (accounted.serves listening).2) room
  exact accounted.settle ⟨adds.shown, adds.written⟩

theorem Session.Accounted.shutdown (accounted : start.Accounted events s inForce) (room : s.HasRoom) :
    start.Accounted (events ++ [⟨s, inForce, .shutdown⟩]) s.shutdown none := by
  have logging := s.logging_shutdown
  refine (accounted.adds_shutdown room).accounted (.nothing rfl fun _ => rfl) ?_ ?_ ?_ ?_
  · rw [logging]
    exact accounted.level
  · rw [logging]
    rfl
  · rw [Session.queued, logging]
    rfl
  · intro l listening
    rw [logging] at listening
    cases listening

theorem Session.Accounted.listen (accounted : start.Accounted events s inForce) (room : s.HasRoom) :
    start.Accounted (events ++ [⟨s, inForce, .listen⟩]) s.writeOldest inForce := by
  unfold Session.writeOldest
  split
  · next sinks r rest listening =>
      obtain ⟨level, f, rfl, served⟩ := accounted.serves listening
      have queued : s.queued = r :: rest := by
        rw [Session.queued, listening]
        rfl
      let taken : Session :=
        { s with logging := { s.logging with listener := some { sinks, pending := rest } } }
      have roomy : sinks.HasRoom taken (r :: rest) := hasRoom_congr (s := s) (t := taken) rfl rfl
        (room _ listening)
      obtain ⟨adds, serve⟩ := deliver_spec (s := taken) served.sinks
        (served.heavy r List.mem_cons_self) roomy
      have writes := taken.writes_deliver sinks r
      have left : (Session.deliver sinks taken r).queued = rest := by
        rw [Session.queued, writes.logging]
        rfl
      refine ⟨?_, ?_, ?_, ?_, fun location => ?_⟩
      · rw [writes.logging]
        exact accounted.level
      · rw [writes.logging]
        exact accounted.configured
      · intro l listening'
        rw [writes.logging] at listening' ⊢
        obtain rfl := Option.some.inj listening'
        exact ⟨level, f, rfl, serve, fun r' waits => served.heavy r' (List.mem_cons_of_mem r waits)⟩
      · have before := accounted.shown
        rw [queued, List.flatMap_cons, ← List.append_assoc] at before
        rw [left, adds.shown, List.flatMap_append, List.flatMap_singleton]
        exact before.trans (by simp [Event.shown])
      · have before := accounted.written location
        rw [queued, List.flatMap_cons, ← List.append_assoc] at before
        rw [left, adds.written, writes.now, List.flatMap_append, List.flatMap_singleton]
        exact before.trans (by simp [Event.written])
  · exact accounted.pass rfl fun _ => rfl

theorem History.accounted (down : start.logging.IsDown) (level : 0 < start.logging.level)
    (history : History start events s inForce) (standard : EachSetup events Setup.HasStandardFormats)
    (room : ∀ e ∈ events, e.before.HasRoom) : start.Accounted events s inForce := by
  induction history with
  | start =>
      have queued : start.queued = [] := by
        rw [Session.queued, down.listener]
        rfl
      refine ⟨level, down.configured, ?_, ?_, fun location => ?_⟩
      · intro l listening
        rw [down.listener] at listening
        cases listening
      · rw [queued]
        rfl
      · rw [queued]
        rfl
  | configure _ returned ih =>
      simp only [EachSetup, List.forall_mem_append, List.forall_mem_singleton] at standard room
      exact (ih standard.1 room.1).configure room.2 (standard.2 _ _ rfl) returned
  | log r before ih =>
      simp only [EachSetup, List.forall_mem_append, List.forall_mem_singleton] at standard room
      exact (ih standard.1 room.1).log (before.fits down) r
  | shutdown _ ih =>
      simp only [EachSetup, List.forall_mem_append, List.forall_mem_singleton] at standard room
      exact (ih standard.1 room.1).shutdown room.2
  | listen _ ih =>
      simp only [EachSetup, List.forall_mem_append, List.forall_mem_singleton] at standard room
      exact (ih standard.1 room.1).listen room.2

end Accounts

/-- What is shown and what is written by the time logging is shut down is what the events add, in their
order, however far the listener got between them. -/
theorem history_adds {start s : Session} {events : List Event} {inForce : Option InForce}
    (down : start.logging.IsDown) (level : 0 < start.logging.level)
    (history : History start events s inForce) (standard : EachSetup events Setup.HasStandardFormats)
    (room : ∀ e ∈ events, e.before.HasRoom) (roomAtLast : s.HasRoom) :
    start.Adds s.shutdown (events.flatMap Event.shown)
      (fun location => events.flatMap (Event.written location)) :=
  (history.accounted down level standard room).adds_shutdown roomAtLast

/-- The file system that a log file in an empty one leads to. -/
def newLogFile : FileSystem := { nodes := [(["sketch.log"], .file [])] }

theorem openForMore_newLogFile : openForMore {} "/sketch.log" = .ok newLogFile := by
  have full : Path.absolute (FileSystem.workingPath {}) "/sketch.log" = "/sketch.log" := by rfl
  have dir : Path.parent "/sketch.log" = "/" := by rfl
  have root (followLast : Bool) :
      FileSystem.locate {} followLast "/" = .ok (.present [] .directory) := by
    rw [FileSystem.locate_eq_ok_iff, show names "/" = ["."] by rfl, FileSystem.walk, if_pos (by rfl),
      FileSystem.walk]
    exact ⟨by decide, by decide, by decide, rfl⟩
  have above : FileSystem.lacksAbove {} "/" = false := by rfl
  have made : FileSystem.makeDirectories {} "/" = ({}, .ok ()) := by
    have present : FileSystem.locateNew {} "/" = .ok (.present [] .directory) := by
      have bare : (String.ofList (Path.dropSlashes "/".toList)).isEmpty = true := by rfl
      rw [FileSystem.locateNew, bare, if_pos rfl, root]
    have ensured : FileSystem.ensureDirectory {} "/" = ({}, .ok ()) := by
      have there : FileSystem.isDirectory {} "/" = true := by
        rw [FileSystem.isDirectory, FileSystem.status, root]
      unfold FileSystem.ensureDirectory FileSystem.makeDirectory
      rw [present]
      dsimp only
      rw [there]
      rfl
    rw [FileSystem.makeDirectories, FileSystem.makeDirectoriesWithin, above, if_neg (by decide), ensured]
  have free : FileSystem.locate {} true "/sketch.log" = .ok (.absent ["sketch.log"]) := by
    have nothing : FileSystem.node? {} ["sketch.log"] = none := rfl
    rw [FileSystem.locate_eq_ok_iff, show names "/sketch.log" = ["sketch.log"] by rfl,
      show FileSystem.startOf {} "/sketch.log" = [] by rfl,
      FileSystem.walk_free (by decide) (by decide) (by decide) nothing]
    exact ⟨by decide, by decide, by decide, rfl⟩
  unfold openForMore
  rw [full]
  dsimp only
  rw [dir, made]
  dsimp only [Except.bind]
  rw [FileSystem.append, FileSystem.update, if_neg (by decide), free]
  rfl

/-- A setup with a log file that has no limit. -/
def keptSetup : Setup := { logFile := some "/sketch.log", maxBytes := 0 }

/-- A setup without a log file. -/
def bareSetup : Setup := { level := "ERROR", maxBytes := 0 }

def freshSession : Session where
  files := {}
  now := { year := 2024, month := 5, day := 6, hour := 7, minute := 8, second := 9 }

/-- One record was written before the next one was logged, which is still in the queue. -/
def behind : Session :=
  (((freshSession.configure keptSetup).1.log ⟨Level.error, "sketch", "gone"⟩).writeOldest).log
    ⟨Level.info, "sketch", "left"⟩

theorem exists_behind : ∃ events inForce, EachSetup events Setup.HasStandardFormats ∧
    EachSetup events (·.maxBytes ≤ 0) ∧
    History freshSession events (behind.configure bareSetup true).1 inForce := by
  have kept : keptSetup.HasStandardFormats := ⟨rfl, rfl, rfl⟩
  have bare : bareSetup.HasStandardFormats := ⟨rfl, rfl, rfl⟩
  have first := configure_returns freshSession kept false (by
    rintro path isPath
    obtain rfl := Option.some.inj isPath
    intro p failed
    have opened : openForMore (freshSession.readyFor keptSetup).files "/sketch.log" = .ok newLogFile :=
      openForMore_newLogFile
    cases opened.symm.trans failed)
  have second := configure_returns behind bare true nofun
  have history := History.configure (.log ⟨Level.info, "sketch", "left"⟩
    (.listen (.log ⟨Level.error, "sketch", "gone"⟩ (.configure .start first)))) second
  refine ⟨_, _, ?_, ?_, history⟩
  · intro e member setup force isSetup
    simp only [List.mem_append, List.mem_singleton, List.not_mem_nil, false_or] at member
    rcases member with (((rfl | rfl) | rfl) | rfl) | rfl <;> cases isSetup
    · exact kept
    · exact bare
  · intro e member setup force isSetup
    simp only [List.mem_append, List.mem_singleton, List.not_mem_nil, false_or] at member
    rcases member with (((rfl | rfl) | rfl) | rfl) | rfl <;> cases isSetup
    · exact Int.le_refl _
    · exact Int.le_refl _

theorem history_adds_behind : freshSession.logging.IsDown ∧ 0 < freshSession.logging.level ∧
    ∃ events inForce, EachSetup events Setup.HasStandardFormats ∧
      History freshSession events (behind.configure bareSetup true).1 inForce ∧
      (∀ e ∈ events, e.before.HasRoom) ∧ (behind.configure bareSetup true).1.HasRoom ∧
      freshSession.Adds (behind.configure bareSetup true).1.shutdown (events.flatMap Event.shown)
        (fun location => events.flatMap (Event.written location)) := by
  have down : freshSession.logging.IsDown := ⟨rfl, by decide, rfl⟩
  have level : 0 < freshSession.logging.level := by decide
  obtain ⟨events, inForce, standard, unlimited, history⟩ := exists_behind
  obtain ⟨room, roomAtLast⟩ := history.hasRoom down unlimited
  exact ⟨down, level, events, inForce, standard, history, room, roomAtLast,
    history_adds down level history standard room roomAtLast⟩

end SketchSurvey.Log
