import Mathlib.Order.Bounds.Basic
import Mathlib.Order.Nat
import PageScript.Chrome.Navigation
import PageScript.Step

/-!
# What ends the wait for a navigation

A navigation is waited for until an event of its frame, its loading and a name is told. Of several
such events the first counts, whether it comes before the answer to the command or after it, and no
event of another frame or of another loading does (`goto_eq_ok_iff`, `reload_eq_ok_iff`). The
loading of a reload is the one that the frame began last before the event.

A connection that closes ends the wait as well, and the navigation then counts as finished although
nothing of the kind was told. The main statements say what holds as long as it stays open
(`other_loadings_pass_by`), and exactly when a navigation is finished if it may close
(`finished_iff_told_or_lost`).

**What it does not establish.** That the stream of events is what the browser told is assumed, and
so is that a closed connection shows as its end; nothing is said of waits without an event.

Times are in nanoseconds from the command on.
-/

namespace PageScript.Chrome

namespace LifecycleStream

/-- What is told comes in the order of its times. -/
abbrev InOrder (stream : LifecycleStream) : Prop :=
  stream.events.Pairwise fun a b => a.time ≤ b.time

/-- A wait ends when what it waits for is told first, or, if it is told at no time, when the
connection closes. -/
def Ends (stream : LifecycleStream) (told : Set Nat) (moment : Nat) : Prop :=
  IsLeast told moment ∨ told = ∅ ∧ stream.closed = some moment

/-- On an open stream a wait ends at the least moment that is told. -/
theorem ends_of_open {stream : LifecycleStream} (opened : stream.closed = none) (told : Set Nat)
    (t : Nat) : stream.Ends told t ↔ IsLeast told t := by
  simp [Ends, opened]

/-- A wait ends by `limit` exactly if what it waits for is told by then, or at no time and the
connection has closed by then. -/
theorem exists_ends_le_iff (stream : LifecycleStream) (told : Set Nat) (limit : Nat) :
    (∃ t ≤ limit, stream.Ends told t) ↔
      (∃ t ≤ limit, t ∈ told) ∨ (∀ t, t ∉ told) ∧ ∃ t ≤ limit, stream.closed = some t := by
  classical
  constructor
  · rintro ⟨t, inTime, first | ⟨none, lost⟩⟩
    · exact .inl ⟨t, inTime, first.1⟩
    · exact .inr ⟨fun t => none ▸ Set.notMem_empty t, t, inTime, lost⟩
  · rintro (⟨t, inTime, mem⟩ | ⟨none, t, inTime, lost⟩)
    · have least := Nat.isLeast_find ⟨t, mem⟩
      exact ⟨_, (least.2 mem).trans inTime, .inl least⟩
    · exact ⟨t, inTime, .inr ⟨Set.eq_empty_of_forall_notMem none, lost⟩⟩

end LifecycleStream

namespace Navigation

/-! ## The events that are waited for -/

/-- The moments at which an event of a frame, a loading and a name is told. -/
def told (frame loader name : String) (events : List (Timed Lifecycle)) : Set Nat :=
  {t | ⟨t, frame, loader, name⟩ ∈ events}

/-- The loading that a frame has begun last. -/
def begun (frame : String) (events : List (Timed Lifecycle)) : Option String :=
  (events.filter fun e => e.value.frame == frame && e.value.name == beginning).getLast?.map
    (·.value.loader)

/-- The moments at which an event of a name is told that belongs to the loading which the frame has
begun last before it; `loader` is the one begun before all events. -/
def toldOfLast (frame name : String) (loader : Option String) (events : List (Timed Lifecycle)) :
    Set Nat :=
  {t | ∃ before last after, events = before ++ ⟨t, frame, last, name⟩ :: after ∧
    (begun frame before).or loader = some last}

/-- The loading that began last, one event earlier. -/
theorem begun_cons (frame : String) (loader : Option String) (e : Timed Lifecycle)
    (events : List (Timed Lifecycle)) :
    (begun frame (e :: events)).or loader = (begun frame events).or
      (if e.value.frame = frame ∧ e.value.name = beginning then some e.value.loader
        else loader) := by
  unfold begun
  by_cases begins : e.value.frame = frame ∧ e.value.name = beginning
  · rw [List.filter_cons_of_pos (by simpa using begins), List.getLast?_cons, if_pos begins]
    cases (events.filter _).getLast? <;> rfl
  · rw [List.filter_cons_of_neg (by simpa using begins), if_neg begins]

/-- The moments that are told for the last loading, one event earlier. -/
theorem mem_toldOfLast_cons {frame name : String} {loader : Option String} {e : Timed Lifecycle}
    {events : List (Timed Lifecycle)} {t : Nat} :
    t ∈ toldOfLast frame name loader (e :: events) ↔
      (∃ last, e = ⟨t, frame, last, name⟩ ∧ loader = some last) ∨
        t ∈ toldOfLast frame name
          (if e.value.frame = frame ∧ e.value.name = beginning then some e.value.loader else loader)
          events := by
  constructor
  · rintro ⟨_ | ⟨first, before⟩, last, after, split, same⟩
    · obtain ⟨rfl, rfl⟩ := List.cons.inj split
      exact .inl ⟨last, rfl, same⟩
    · obtain ⟨rfl, rfl⟩ := List.cons.inj split
      rw [begun_cons] at same
      exact .inr ⟨before, last, after, rfl, same⟩
  · rintro (⟨last, rfl, same⟩ | ⟨before, last, after, rfl, same⟩)
    · exact ⟨[], last, events, rfl, same⟩
    · exact ⟨e :: before, last, after, rfl, begun_cons frame loader e before ▸ same⟩

/-- A moment that is told is the time of an event. -/
theorem exists_mem_of_mem_toldOfLast {frame name : String} {loader : Option String}
    {events : List (Timed Lifecycle)} {t : Nat} (mem : t ∈ toldOfLast frame name loader events) :
    ∃ e ∈ events, e.time = t := by
  obtain ⟨before, last, after, rfl, -⟩ := mem
  exact ⟨_, List.mem_append_right _ List.mem_cons_self, rfl⟩

/-- A moment is the least if it is equal to the least. -/
theorem some_eq_some_iff_of_isLeast {moments : Set Nat} {t u : Nat} (least : IsLeast moments t) :
    some t = some u ↔ IsLeast moments u :=
  ⟨fun same => Option.some.inj same ▸ least, fun other => congrArg some (least.unique other)⟩

/-- Of events in the order of their times, the first that is found is the first that is told. -/
theorem event?_eq_some_iff {frame loader name : String} {stream : LifecycleStream}
    (inOrder : stream.InOrder) {t : Nat} :
    event? frame loader name stream = some t ↔
      IsLeast (told frame loader name stream.events) t := by
  obtain ⟨events, closed⟩ := stream
  induction events with
  | nil => exact iff_of_false nofun fun least => List.not_mem_nil least.1
  | cons e events ih =>
    obtain ⟨first, rest⟩ := List.pairwise_cons.mp inOrder
    by_cases wanted : e.value = ⟨frame, loader, name⟩
    · obtain ⟨moment, value⟩ := e
      obtain rfl : value = ⟨frame, loader, name⟩ := wanted
      have found : event? frame loader name ⟨⟨moment, frame, loader, name⟩ :: events, closed⟩ =
          some moment := by simp [event?]
      rw [found]
      refine some_eq_some_iff_of_isLeast ⟨List.mem_cons_self, fun u mem => ?_⟩
      · obtain same | later := List.mem_cons.mp mem
        · exact (congrArg Timed.time same).ge
        · exact first _ later
    · have skipped : event? frame loader name ⟨e :: events, closed⟩ =
          event? frame loader name ⟨events, closed⟩ := by
        unfold event?
        rw [List.find?_cons_of_neg]
        intro alike
        simp only [Bool.and_eq_true, beq_iff_eq] at alike
        obtain ⟨⟨rfl, rfl⟩, rfl⟩ := alike
        exact wanted rfl
      have same : told frame loader name (e :: events) = told frame loader name events := by
        ext u
        refine ⟨fun mem => (List.mem_cons.mp mem).resolve_left ?_, List.mem_cons_of_mem e⟩
        rintro rfl
        exact wanted rfl
      rw [skipped, same]
      exact ih rest

/-- Of events in the order of their times, the first that is met with its loading begun last is the
first that is told so. -/
theorem reloaded?_eq_some_iff {frame name : String} (other : name ≠ beginning)
    {events : List (Timed Lifecycle)} (inOrder : events.Pairwise fun a b => a.time ≤ b.time)
    (loader : Option String) {t : Nat} :
    reloaded? frame name loader events = some t ↔
      IsLeast (toldOfLast frame name loader events) t := by
  induction events generalizing loader with
  | nil =>
    refine iff_of_false nofun fun least => ?_
    obtain ⟨e, mem, -⟩ := exists_mem_of_mem_toldOfLast least.1
    cases mem
  | cons e events ih =>
    obtain ⟨first, rest⟩ := List.pairwise_cons.mp inOrder
    by_cases wanted : e.value.frame = frame ∧ e.value.name = name ∧ loader = some e.value.loader
    · obtain ⟨moment, f, l, n⟩ := e
      obtain ⟨rfl, rfl, rfl⟩ := wanted
      have found : reloaded? f n (some l) (⟨moment, f, l, n⟩ :: events) = some moment := by
        simp [reloaded?, other]
      rw [found]
      refine some_eq_some_iff_of_isLeast ⟨?_, fun u mem => ?_⟩
      · exact mem_toldOfLast_cons.mpr (.inl ⟨l, rfl, rfl⟩)
      · obtain ⟨last, same, -⟩ | later := mem_toldOfLast_cons.mp mem
        · exact (congrArg Timed.time same).le
        · obtain ⟨e, among, rfl⟩ := exists_mem_of_mem_toldOfLast later
          exact first e among
    · -- the event is passed over, but may tell which loading was begun last
      have skipped : reloaded? frame name loader (e :: events) = reloaded? frame name
          (if e.value.frame = frame ∧ e.value.name = beginning then some e.value.loader else loader)
          events := by
        by_cases same : e.value.frame = frame
        · by_cases begins : e.value.name = beginning
          · simp [reloaded?, same, begins]
          · have apart : ¬ (e.value.name = name ∧ loader = some e.value.loader) :=
              fun both => wanted ⟨same, both⟩
            simp [reloaded?, same, begins, apart]
        · simp [reloaded?, same]
      have same : toldOfLast frame name loader (e :: events) = toldOfLast frame name
          (if e.value.frame = frame ∧ e.value.name = beginning then some e.value.loader else loader)
          events := by
        ext u
        refine ⟨fun mem => (mem_toldOfLast_cons.mp mem).resolve_left ?_,
          fun mem => mem_toldOfLast_cons.mpr (.inr mem)⟩
        rintro ⟨last, rfl, begun⟩
        exact wanted ⟨rfl, rfl, begun⟩
      rw [skipped, same]
      exact ih rest _

/-! ## Waits -/

/-- A wait ends with the first event that is told, or with the stream. -/
theorem endOf_eq_some_iff {event : Option Nat} {moments : Set Nat} {stream : LifecycleStream}
    (first : ∀ t, event = some t ↔ IsLeast moments t) {t : Nat} :
    endOf event stream = some t ↔ stream.Ends moments t := by
  classical
  unfold endOf LifecycleStream.Ends
  cases event with
  | some u =>
    have least := (first u).mp rfl
    have some : moments ≠ ∅ := fun none => absurd least.1 (none ▸ Set.notMem_empty u)
    simpa [some] using first t
  | none =>
    have none : moments = ∅ := by
      refine Set.eq_empty_of_forall_notMem fun u mem => ?_
      exact absurd ((first _).mpr (Nat.isLeast_find ⟨u, mem⟩)) nofun
    have never : ¬ IsLeast (∅ : Set Nat) t := fun least => Set.notMem_empty t least.1
    simp [none, never]

/-- Waiting succeeds if what is waited for comes before the limit, at its time or at the start. -/
theorem await_eq_ok_iff {start limit moment : Nat} {wanted : Option Nat} {late : Failure} :
    await start limit wanted late = ⟨moment, .ok ()⟩ ↔
      ∃ t, wanted = some t ∧ moment = max start t ∧ moment ≤ limit := by
  unfold await
  cases wanted with
  | none => simp
  | some t =>
    dsimp only
    by_cases inTime : max start t ≤ limit
    · rw [if_pos inTime]
      constructor
      · rintro ⟨⟩
        exact ⟨t, rfl, rfl, inTime⟩
      · rintro ⟨_, ⟨⟩, rfl, -⟩
        rfl
    · rw [if_neg inTime]
      refine iff_of_false nofun ?_
      rintro ⟨_, ⟨⟩, rfl, other⟩
      exact inTime other

/-- A wait that does not end well ends at its limit. -/
theorem await_of_ne_ok {start limit : Nat} {wanted : Option Nat} {late : Failure}
    (fails : (await start limit wanted late).value ≠ .ok ()) :
    await start limit wanted late = ⟨limit, .error late⟩ := by
  unfold await at fails ⊢
  cases wanted with
  | none => rfl
  | some t =>
    dsimp only at fails ⊢
    split at fails
    · exact absurd rfl fails
    · rename_i tooLate
      rw [if_neg tooLate]

/-! ## Opening an address -/

/-- The answer that an address is being opened in a frame, at some time or never. -/
def answer (frame loader : String) (answered : Option Nat) :
    Option (Timed (Except String NavigateReply)) :=
  answered.map fun t => ⟨t, .ok ⟨frame, some loader, none⟩⟩

section

variable {url frame loader name : String} {timeout : Nat} {stream : LifecycleStream}

/-- A command that is not answered in time fails with its timeout. -/
theorem goto_of_unanswered {answered : Option Nat}
    (late : ∀ a, answered = some a → timeout * millisecond < a) :
    goto url timeout (some name) (answer frame loader answered) stream =
      ⟨timeout * millisecond, .error (.timeout timeout (opening url))⟩ := by
  cases answered with
  | none => rfl
  | some a => exact if_pos (late a rfl)

/-- A command that is answered in time is followed by the wait for the event. -/
theorem goto_of_answered {a : Nat} (inTime : a ≤ timeout * millisecond) :
    goto url timeout (some name) (answer frame loader (some a)) stream =
      await a (timeout * millisecond) (endOf (event? frame loader name stream) stream)
        (.timeout timeout (awaiting (opening url) name)) :=
  if_neg (Nat.not_lt.mpr inTime)

/-- An address is opened when the answer has come and the wait for the event has ended. -/
theorem goto_eq_ok_iff (inOrder : stream.InOrder) {answered : Option Nat} {moment : Nat} :
    goto url timeout (some name) (answer frame loader answered) stream = ⟨moment, .ok ()⟩ ↔
      ∃ a t, answered = some a ∧ stream.Ends (told frame loader name stream.events) t ∧
        moment = max a t ∧ moment ≤ timeout * millisecond := by
  have ends (t : Nat) : endOf (event? frame loader name stream) stream = some t ↔
      stream.Ends (told frame loader name stream.events) t :=
    endOf_eq_some_iff fun _ => event?_eq_some_iff inOrder
  by_cases inTime : ∃ a, answered = some a ∧ a ≤ timeout * millisecond
  · obtain ⟨a, rfl, inTime⟩ := inTime
    rw [goto_of_answered inTime, await_eq_ok_iff]
    constructor
    · rintro ⟨t, ended, later, within⟩
      exact ⟨a, t, rfl, (ends t).mp ended, later, within⟩
    · rintro ⟨_, t, ⟨⟩, ended, later, within⟩
      exact ⟨t, (ends t).mpr ended, later, within⟩
  · rw [goto_of_unanswered fun a same => Nat.lt_of_not_le fun le => inTime ⟨a, same, le⟩]
    refine iff_of_false nofun ?_
    rintro ⟨a, t, same, -, rfl, within⟩
    exact inTime ⟨a, same, (Nat.le_max_left a t).trans within⟩

/-- A navigation that is not finished ends at the limit, with what was waited for then. -/
theorem goto_of_ne_ok {answered : Option Nat}
    (fails : (goto url timeout (some name) (answer frame loader answered) stream).value ≠ .ok ()) :
    ∃ what ∈ [opening url, awaiting (opening url) name],
      goto url timeout (some name) (answer frame loader answered) stream =
        ⟨timeout * millisecond, .error (.timeout timeout what)⟩ := by
  by_cases inTime : ∃ a, answered = some a ∧ a ≤ timeout * millisecond
  · obtain ⟨a, rfl, inTime⟩ := inTime
    rw [goto_of_answered inTime] at fails ⊢
    exact ⟨_, List.mem_cons_of_mem _ List.mem_cons_self, await_of_ne_ok fails⟩
  · refine ⟨_, List.mem_cons_self, goto_of_unanswered fun a same => ?_⟩
    exact Nat.lt_of_not_le fun le => inTime ⟨a, same, le⟩

/-! ## Loading the page again -/

/-- A reload is finished at the first event of its last loading, or at the end of the stream. -/
theorem reload_eq_ok_iff (other : name ≠ beginning) (inOrder : stream.InOrder)
    {answered moment : Nat} :
    reload frame timeout (some name) answered stream = ⟨moment, .ok ()⟩ ↔
      ∃ t, stream.Ends (toldOfLast frame name none stream.events) t ∧ moment = max answered t ∧
        moment ≤ answered + timeout * millisecond := by
  have ends (t : Nat) : endOf (reloaded? frame name none stream.events) stream = some t ↔
      stream.Ends (toldOfLast frame name none stream.events) t :=
    endOf_eq_some_iff fun _ => reloaded?_eq_some_iff other inOrder none
  simp only [reload, await_eq_ok_iff, ends]

/-- A reload that is not finished fails with its timeout. -/
theorem reload_of_ne_ok {answered : Nat}
    (fails : (reload frame timeout (some name) answered stream).value ≠ .ok ()) :
    reload frame timeout (some name) answered stream =
      ⟨answered + timeout * millisecond, .error (.timeout timeout (awaiting "reloading" name))⟩ :=
  await_of_ne_ok fails

end

end Navigation

/-- The beginning of a loading is not what a navigation is waited for. -/
theorem ne_beginning_of_event? {waitUntil : WaitUntil} {name : String}
    (named : waitUntil.event? = some name) : name ≠ Navigation.beginning := by
  cases waitUntil <;> cases named <;> decide

/-- As long as the connection stays open, an address is opened exactly if within the limit both the
answer has come and an event of its name, of the frame and of the loading of the answer was told, at
the later moment of the two; and the page is loaded again exactly if within the limit, counted from
the answer, an event of its name and of the loading was told that the frame had begun last. Else
the limit is where it ends. -/
theorem other_loadings_pass_by {waitUntil : WaitUntil} {name : String}
    (named : waitUntil.event? = some name) {stream : LifecycleStream} (inOrder : stream.InOrder)
    (opened : stream.closed = none) (timeout : Nat) :
    (∀ url frame loader answered,
      let limit := timeout * millisecond
      let ending := Navigation.goto url timeout waitUntil.event?
        (Navigation.answer frame loader answered) stream
      (∀ moment, ending = ⟨moment, .ok ()⟩ ↔ ∃ a t, answered = some a ∧
        IsLeast (Navigation.told frame loader name stream.events) t ∧
          moment = max a t ∧ moment ≤ limit) ∧
      (ending.value ≠ .ok () →
        ∃ what ∈ [Navigation.opening url, Navigation.awaiting (Navigation.opening url) name],
          ending = ⟨limit, .error (.timeout timeout what)⟩)) ∧
    ∀ frame answered,
      let limit := answered + timeout * millisecond
      let ending := Navigation.reload frame timeout waitUntil.event? answered stream
      (∀ moment, ending = ⟨moment, .ok ()⟩ ↔ ∃ t,
        IsLeast (Navigation.toldOfLast frame name none stream.events) t ∧
          moment = max answered t ∧ moment ≤ limit) ∧
      (ending.value ≠ .ok () →
        ending = ⟨limit, .error (.timeout timeout (Navigation.awaiting "reloading" name))⟩) := by
  rw [named]
  refine ⟨fun url frame loader answered => ⟨fun moment => ?_, Navigation.goto_of_ne_ok⟩,
    fun frame answered => ⟨fun moment => ?_, Navigation.reload_of_ne_ok⟩⟩
  · rw [Navigation.goto_eq_ok_iff inOrder]
    simp only [LifecycleStream.ends_of_open opened]
  · rw [Navigation.reload_eq_ok_iff (ne_beginning_of_event? named) inOrder]
    simp only [LifecycleStream.ends_of_open opened]

/-- Also told of are a document from before, a frame within the page, and a loading that another one
took the place of. -/
def manyLoadings : LifecycleStream where
  events := [⟨1, "F1", "L0", "load"⟩, ⟨2, "F1", "L1", "init"⟩, ⟨3, "F2", "L2", "load"⟩,
    ⟨4, "F1", "L2", "init"⟩, ⟨5, "F1", "L1", "load"⟩, ⟨6, "F1", "L2", "load"⟩]
  closed := none

/-- An open stream with two loadings: a navigation waits for its own, a reload for the last. -/
theorem other_loadings_pass_by_manyLoadings :
    WaitUntil.load.event? = some "load" ∧ manyLoadings.InOrder ∧ manyLoadings.closed = none ∧
      Navigation.goto "http://h/" 1 WaitUntil.load.event?
        (Navigation.answer "F1" "L2" (some 7)) manyLoadings = ⟨7, .ok ()⟩ ∧
      Navigation.reload "F1" 1 WaitUntil.load.event? 0 manyLoadings = ⟨6, .ok ()⟩ := by
  have named : WaitUntil.load.event? = some "load" := rfl
  have inOrder : manyLoadings.InOrder := by decide
  have told : IsLeast (Navigation.told "F1" "L2" "load" manyLoadings.events) 6 :=
    (Navigation.event?_eq_some_iff inOrder).mp (by decide)
  have toldOfLast : IsLeast (Navigation.toldOfLast "F1" "load" none manyLoadings.events) 6 :=
    (Navigation.reloaded?_eq_some_iff (by decide) inOrder none).mp (by decide)
  obtain ⟨opens, reloads⟩ := other_loadings_pass_by named inOrder rfl 1
  refine ⟨named, inOrder, rfl, ?_, ?_⟩
  · exact ((opens _ "F1" "L2" (some 7)).1 7).mpr ⟨7, 6, rfl, told, rfl, by decide⟩
  · exact ((reloads "F1" 0).1 6).mpr ⟨6, toldOfLast, rfl, by decide⟩

/-- A result is a success if it is one at its moment. -/
theorem Timed.value_eq_ok_iff {ending : Timed (Except Failure Unit)} :
    ending.value = .ok () ↔ ∃ moment, ending = ⟨moment, .ok ()⟩ :=
  ⟨fun same => ⟨ending.time, same ▸ rfl⟩, fun ⟨_, same⟩ => congrArg Timed.value same⟩

/-- A navigation is finished exactly if, within the limit and with the answer there, an event of its
name, frame and loading was told, or if none was told at any time and the connection has closed. -/
theorem finished_iff_told_or_lost {waitUntil : WaitUntil} {name : String}
    (named : waitUntil.event? = some name) {stream : LifecycleStream} (inOrder : stream.InOrder)
    (timeout : Nat) :
    (∀ url frame loader answered,
      let limit := timeout * millisecond
      let told := Navigation.told frame loader name stream.events
      (Navigation.goto url timeout waitUntil.event?
          (Navigation.answer frame loader answered) stream).value = .ok () ↔
        (∃ a ≤ limit, answered = some a) ∧
          ((∃ t ≤ limit, t ∈ told) ∨ (∀ t, t ∉ told) ∧ ∃ t ≤ limit, stream.closed = some t)) ∧
    ∀ frame answered,
      let limit := answered + timeout * millisecond
      let told := Navigation.toldOfLast frame name none stream.events
      (Navigation.reload frame timeout waitUntil.event? answered stream).value = .ok () ↔
        (∃ t ≤ limit, t ∈ told) ∨ (∀ t, t ∉ told) ∧ ∃ t ≤ limit, stream.closed = some t := by
  rw [named]
  refine ⟨fun url frame loader answered => ?_, fun frame answered => ?_⟩
  · simp only [← LifecycleStream.exists_ends_le_iff, Timed.value_eq_ok_iff,
      Navigation.goto_eq_ok_iff inOrder]
    constructor
    · rintro ⟨_, a, t, answered, ends, rfl, within⟩
      exact ⟨⟨a, (Nat.le_max_left a t).trans within, answered⟩, t,
        (Nat.le_max_right a t).trans within, ends⟩
    · rintro ⟨⟨a, early, answered⟩, t, inTime, ends⟩
      exact ⟨_, a, t, answered, ends, rfl, Nat.max_le.mpr ⟨early, inTime⟩⟩
  · simp only [← LifecycleStream.exists_ends_le_iff, Timed.value_eq_ok_iff,
      Navigation.reload_eq_ok_iff (ne_beginning_of_event? named) inOrder]
    constructor
    · rintro ⟨_, t, ends, rfl, within⟩
      exact ⟨t, (Nat.le_max_right answered t).trans within, ends⟩
    · rintro ⟨t, inTime, ends⟩
      exact ⟨_, t, ends, rfl, Nat.max_le.mpr ⟨Nat.le_add_right .., inTime⟩⟩

/-- The connection closes when the main frame has only begun to load, and another frame is done. -/
def lostEarly : LifecycleStream where
  events := [⟨1, "F1", "L1", "init"⟩, ⟨2, "F2", "L2", "load"⟩]
  closed := some 3

/-- The frame that is done was told of; the other one is lost, within the limit or after it. -/
theorem finished_iff_told_or_lost_lostEarly :
    WaitUntil.load.event? = some "load" ∧ lostEarly.InOrder ∧
      (Navigation.goto "http://h/" 1 WaitUntil.load.event?
        (Navigation.answer "F2" "L2" (some 1)) lostEarly).value = .ok () ∧
      (Navigation.goto "http://h/" 1 WaitUntil.load.event?
        (Navigation.answer "F1" "L1" (some 1)) lostEarly).value = .ok () ∧
      (Navigation.reload "F1" 0 WaitUntil.load.event? 0 lostEarly).value ≠ .ok () := by
  have named : WaitUntil.load.event? = some "load" := rfl
  have inOrder : lostEarly.InOrder := by decide
  have opens := fun url => (finished_iff_told_or_lost named inOrder 1).1 url
  refine ⟨named, inOrder, ?_, ?_, fun finished => ?_⟩
  · refine (opens _ "F2" "L2" (some 1)).mpr ?_
    exact ⟨⟨1, by decide, rfl⟩, .inl ⟨2, by decide, List.mem_of_getElem? (i := 1) rfl⟩⟩
  · have others : ∀ e ∈ lostEarly.events, e.value ≠ ⟨"F1", "L1", "load"⟩ := by decide
    refine (opens _ "F1" "L1" (some 1)).mpr ⟨⟨1, by decide, rfl⟩, .inr ⟨?_, 3, by decide, rfl⟩⟩
    exact fun t told => others _ told rfl
  · have late : ∀ e ∈ lostEarly.events, 0 < e.time := by decide
    obtain ⟨t, now, told⟩ | ⟨-, t, now, lost⟩ :=
      ((finished_iff_told_or_lost named inOrder 0).2 "F1" 0).mp finished
    · obtain ⟨e, mem, rfl⟩ := Navigation.exists_mem_of_mem_toldOfLast told
      exact absurd now (Nat.not_le.mpr (late e mem))
    · obtain rfl : 3 = t := Option.some.inj lost
      exact absurd now (by decide)

/-- A navigation counts as finished though its event was never told: the frame has only begun to
load when the connection closes, and both kinds of navigation end well at that moment. -/
theorem finished_untold :
    (∀ e ∈ lostEarly.events, e.value.frame = "F1" → e.value.name ≠ "load") ∧
      Navigation.goto "http://h/" 1 WaitUntil.load.event?
        (Navigation.answer "F1" "L1" (some 1)) lostEarly = ⟨3, .ok ()⟩ ∧
      Navigation.reload "F1" 1 WaitUntil.load.event? 0 lostEarly = ⟨3, .ok ()⟩ := by
  decide

end PageScript.Chrome
