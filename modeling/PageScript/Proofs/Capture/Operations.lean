import PageScript.Proofs.Capture.Books

/-!
# Whatever is done with a router

The router of a run only ever meets what an observer does with it. Here it meets any `Operation`
at any time: responses and ends of one request more than once, bodies of requests that never
waited for one. `Sound` is what every operation preserves all the same, and `operations_account`
what holds of a router after any operations: a held end excludes that its request is waiting or
passed over, captures are only added at the end, and every response that was let in either waits
or has become a capture.

`Observer.attendAll_eq_runAll` says that an observer does nothing else with its router.

**What it does not establish.** The requests of a browser are not assumed to be well behaved here,
so nothing is said of which response or end a capture belongs to; that is said of runs in which each
comes once.
-/

namespace PageScript

namespace Router

/-! ## Tables -/

/-- The requests that have an entry in a table. -/
def requests (table : List (String × α)) : List String :=
  table.map (·.1)

/-- Without the entry of a request the table has the other requests, in their order. -/
theorem requests_without (id : String) (table : List (String × α)) :
    requests (without id table) = (requests table).filter (· != id) := by
  rw [requests, requests, without, List.filter_map]
  rfl

/-- A request is listed exactly if there is an entry for it. -/
theorem mem_requests_iff {id : String} {table : List (String × α)} :
    id ∈ requests table ↔ (find? id table).isSome := by
  induction table with
  | nil => simp [requests, find?]
  | cons entry table ih =>
    obtain ⟨other, a⟩ := entry
    by_cases h : other = id
    · simp [requests, find?, h]
    · simpa [requests, find?, h, Ne.symm h] using ih

theorem not_mem_requests_iff {id : String} {table : List (String × α)} :
    id ∉ requests table ↔ find? id table = none := by
  rw [mem_requests_iff, Bool.not_eq_true, Option.isSome_eq_false_iff, Option.isNone_iff_eq_none]

/-- An entry is found by its request if no other entry has that request. -/
theorem find?_eq_some_iff {id : String} {a : α} {table : List (String × α)}
    (distinct : (requests table).Nodup) : find? id table = some a ↔ (id, a) ∈ table := by
  induction table with
  | nil => simp [find?]
  | cons entry table ih =>
    obtain ⟨other, b⟩ := entry
    obtain ⟨new, distinct⟩ := List.nodup_cons.mp distinct
    by_cases h : other = id
    · subst h
      have absent : (other, a) ∉ table := fun mem => new (List.mem_map.mpr ⟨_, mem, rfl⟩)
      simp [find?, absent, eq_comm]
    · simp [find?, h, Ne.symm h, ih distinct]

/-- A table without entries is one in which nothing is found. -/
theorem eq_nil_of_find? {table : List (String × α)} (nothing : ∀ id, find? id table = none) :
    table = [] := by
  have none : requests table = [] :=
    List.eq_nil_iff_forall_not_mem.mpr fun id => not_mem_requests_iff.mpr (nothing id)
  exact List.map_eq_nil_iff.mp none

/-- Taking an entry out keeps the requests of a table apart. -/
theorem nodup_requests_without {table : List (String × α)} (id : String)
    (distinct : (requests table).Nodup) : (requests (without id table)).Nodup := by
  rw [requests_without]
  exact distinct.filter _

/-- Putting an entry in takes the place of one for the same request, and so keeps the requests
apart. -/
theorem nodup_requests_assign {table : List (String × α)} (id : String) (a : α)
    (distinct : (requests table).Nodup) : (requests (assign id a table)).Nodup := by
  refine List.nodup_cons.mpr ⟨?_, nodup_requests_without id distinct⟩
  exact not_mem_requests_iff.mpr (by rw [find?_without, if_pos rfl])

/-- Taking out an entry that is not there changes nothing. -/
theorem length_without_of_none {id : String} {table : List (String × α)}
    (absent : find? id table = none) : (without id table).length = table.length := by
  rw [without, List.filter_eq_self.mpr]
  intro entry mem
  have other : entry.1 ≠ id := by
    rintro rfl
    exact not_mem_requests_iff.mpr absent (List.mem_map_of_mem mem)
  simpa using other

/-- Taking an entry away makes a table one entry shorter. -/
theorem length_without_of_some {id : String} {a : α} {table : List (String × α)}
    (distinct : (requests table).Nodup) (present : find? id table = some a) :
    (without id table).length + 1 = table.length := by
  have mem : id ∈ requests table := mem_requests_iff.mpr (by rw [present]; rfl)
  calc (without id table).length + 1
      = (requests (without id table)).length + 1 := by rw [requests, List.length_map]
    _ = ((requests table).erase id).length + 1 := by rw [requests_without, distinct.erase_eq_filter]
    _ = (requests table).length := List.length_erase_add_one mem
    _ = table.length := List.length_map _

/-- An entry for a request without one makes the table longer by one. -/
theorem length_assign_of_none {id : String} {a : α} {table : List (String × α)}
    (absent : find? id table = none) : (assign id a table).length = table.length + 1 := by
  rw [assign, List.length_cons, length_without_of_none absent]

/-- An entry for a request that has one leaves the table as long as it is. -/
theorem length_assign_of_some {id : String} {a b : α} {table : List (String × α)}
    (distinct : (requests table).Nodup) (present : find? id table = some b) :
    (assign id a table).length = table.length := by
  rw [assign, List.length_cons, length_without_of_some distinct present]

/-! ## Operations -/

/-- Something that is done with a router. -/
inductive Operation where
  | register (rule : CaptureRule)
  | response (id : String) (response : ResponseMeta)
  | loadingEnd (id : String) (ending : LoadingEnd)
  | takeEarlyEnd (id : String)
  | body (id : String) (body : Except String ResponseBody)

/-- What a router is after one operation; what the operation answers is left aside. -/
def run (r : Router) : Operation → Router
  | .register rule => r.register rule
  | .response id m => (r.onResponse id m).1
  | .loadingEnd id ending => (r.onLoadingEnd id ending).1
  | .takeEarlyEnd id => (r.takeEarlyEnd id).1
  | .body id body => (r.settle id body).router

/-- What a router is after operations, one after the other. -/
def runAll (r : Router) (ops : List Operation) : Router :=
  ops.foldl run r

/-- Whether an operation is a response that a rule is meant for, of a request that does not wait. -/
def admits (r : Router) : Operation → Bool
  | .response id m => (r.onResponse id m).2.1 && !r.isPending id
  | _ => false

/-- How many of some operations are such responses, each at its moment. -/
def admissions (r : Router) : List Operation → Nat
  | [] => 0
  | op :: rest => (if r.admits op then 1 else 0) + (r.run op).admissions rest

/-- What holds of a router whatever is done with it. -/
structure Sound (r : Router) : Prop where
  /-- No request is twice in a table. -/
  pending : (requests r.pending).Nodup
  ignored : r.ignored.Nodup
  earlyEnds : (requests r.earlyEnds).Nodup
  /-- A request whose end is held is neither waiting nor passed over. -/
  apart : ∀ id, (find? id r.earlyEnds).isSome → find? id r.pending = none ∧ id ∉ r.ignored

/-- A router with empty tables is sound. -/
theorem sound_empty : Sound .empty :=
  ⟨.nil, .nil, .nil, nofun⟩

/-- Taking the end that came early changes what waits, if anything does, in no other way. -/
theorem takeEarlyEnd_eq (r : Router) (id : String) :
    (r.takeEarlyEnd id).1 = r ∨
      ∃ p, find? id r.pending = some p ∧
        (r.takeEarlyEnd id).1 =
          { r with pending := assign id { p with earlyEnd := none } r.pending } := by
  unfold takeEarlyEnd
  cases waits : find? id r.pending with
  | none => exact .inl rfl
  | some p => exact .inr ⟨p, rfl, rfl⟩

/-- A body for a request that is not waiting for one is dropped: nothing changes and nothing is
found. -/
theorem settle_of_not_waiting {r : Router} {id : String} (h : find? id r.pending = none)
    (body : Except String ResponseBody) : r.settle id body = ⟨r, [], none⟩ := by
  simp [settle, h]

/-- An end is handed back, ends that its request is passed over, or is held. -/
theorem onLoadingEnd_eq (r : Router) (id : String) (ending : LoadingEnd) :
    (r.onLoadingEnd id ending).1 =
      if (find? id r.pending).isSome then r
      else if id ∈ r.ignored then { r with ignored := r.ignored.filter (· != id) }
      else { r with earlyEnds := assign id ending r.earlyEnds } := by
  simp only [onLoadingEnd, isPending, List.contains_iff_mem]
  split
  · rfl
  · split <;> rfl

namespace Sound

variable {r : Router}

/-- A response takes the end of its request out of the ends that are held. -/
theorem onResponse (sound : r.Sound) (id : String) (m : ResponseMeta) :
    Sound (r.onResponse id m).1 := by
  have held (other : String) (h : (find? other (without id r.earlyEnds)).isSome) :
      other ≠ id ∧ (find? other r.earlyEnds).isSome := by
    rw [find?_without] at h
    by_cases same : other = id
    · simp [same] at h
    · simpa [same] using h
  cases found : r.ruleFor? m.url with
  | none =>
    rw [onResponse_unmatched id found]
    refine ⟨sound.pending, ?_, nodup_requests_without id sound.earlyEnds, fun other h => ?_⟩
    · dsimp only
      split
      · exact sound.ignored
      · rename_i fresh
        exact List.nodup_cons.mpr ⟨fun mem => fresh (.inr mem), sound.ignored⟩
    · obtain ⟨ne, early⟩ := held other h
      obtain ⟨waits, passed⟩ := sound.apart other early
      refine ⟨waits, ?_⟩
      dsimp only
      split
      · exact passed
      · exact List.not_mem_cons_of_ne_of_not_mem ne passed
  | some rule =>
    rw [onResponse_matched id found]
    refine ⟨nodup_requests_assign id _ sound.pending, sound.ignored,
      nodup_requests_without id sound.earlyEnds, fun other h => ?_⟩
    obtain ⟨ne, early⟩ := held other h
    obtain ⟨waits, passed⟩ := sound.apart other early
    exact ⟨by rw [find?_assign, if_neg ne, waits], passed⟩

/-- An end is held only if its request is neither waiting nor passed over. -/
theorem onLoadingEnd (sound : r.Sound) (id : String) (ending : LoadingEnd) :
    Sound (r.onLoadingEnd id ending).1 := by
  rw [onLoadingEnd_eq]
  split
  · exact sound
  · rename_i waits
    split
    · refine ⟨sound.pending, sound.ignored.filter _, sound.earlyEnds, fun other h => ?_⟩
      obtain ⟨waits, passed⟩ := sound.apart other h
      exact ⟨waits, fun mem => passed (List.mem_of_mem_filter mem)⟩
    · rename_i passed
      refine ⟨sound.pending, sound.ignored, nodup_requests_assign id ending sound.earlyEnds,
        fun other h => ?_⟩
      rw [find?_assign] at h
      by_cases same : other = id
      · subst same
        exact ⟨by simpa using waits, passed⟩
      · exact sound.apart other (by simpa [same] using h)

/-- Taking an early end removes it and touches no other table. -/
theorem takeEarlyEnd (sound : r.Sound) (id : String) : Sound (r.takeEarlyEnd id).1 := by
  rcases r.takeEarlyEnd_eq id with same | ⟨p, waits, taken⟩
  · rw [same]
    exact sound
  · rw [taken]
    refine ⟨nodup_requests_assign id _ sound.pending, sound.ignored, sound.earlyEnds,
      fun other h => ?_⟩
    obtain ⟨waits', passed⟩ := sound.apart other h
    have ne : other ≠ id := by
      rintro rfl
      rw [waits] at waits'
      cases waits'
    exact ⟨by rw [find?_assign, if_neg ne, waits'], passed⟩

/-- A body that is settled takes the request out of those that wait. -/
theorem settle (sound : r.Sound) (id : String) (body : Except String ResponseBody) :
    Sound (r.settle id body).router := by
  cases waits : find? id r.pending with
  | none =>
    rw [settle_of_not_waiting waits]
    exact sound
  | some p =>
    rw [settle_waiting waits]
    refine ⟨nodup_requests_without id sound.pending, sound.ignored, sound.earlyEnds,
      fun other h => ?_⟩
    obtain ⟨waits, passed⟩ := sound.apart other h
    exact ⟨by rw [find?_without, waits, ite_self], passed⟩

/-- Each operation keeps a router sound, one case for each. -/
theorem run (sound : r.Sound) (op : Operation) : Sound (r.run op) := by
  cases op with
  | register rule => exact ⟨sound.pending, sound.ignored, sound.earlyEnds, sound.apart⟩
  | response id m => exact sound.onResponse id m
  | loadingEnd id ending => exact sound.onLoadingEnd id ending
  | takeEarlyEnd id => exact sound.takeEarlyEnd id
  | body id body => exact sound.settle id body

/-- Any operations keep a router sound, by induction on their list. -/
theorem runAll (sound : r.Sound) (ops : List Operation) : Sound (r.runAll ops) := by
  induction ops generalizing r with
  | nil => exact sound
  | cons op rest ih => exact ih (sound.run op)

end Sound

/-! ## Captures -/

/-- An end only enters the table of early ends, if any. -/
theorem onLoadingEnd_keeps (r : Router) (id : String) (ending : LoadingEnd) :
    (r.onLoadingEnd id ending).1.captures = r.captures ∧
      (r.onLoadingEnd id ending).1.pending = r.pending := by
  rw [onLoadingEnd_eq]
  split
  · exact ⟨rfl, rfl⟩
  · split <;> exact ⟨rfl, rfl⟩

/-- A response captures nothing yet. -/
theorem captures_onResponse (r : Router) (id : String) (m : ResponseMeta) :
    (r.onResponse id m).1.captures = r.captures := by
  cases found : r.ruleFor? m.url with
  | none => rw [onResponse_unmatched id found]
  | some rule => rw [onResponse_matched id found]

/-- Taking an early end captures nothing. -/
theorem captures_takeEarlyEnd (r : Router) (id : String) :
    (r.takeEarlyEnd id).1.captures = r.captures := by
  rcases r.takeEarlyEnd_eq id with same | ⟨p, -, taken⟩
  · rw [same]
  · rw [taken]

/-- No operation changes a capture or takes one away. -/
theorem captures_run (r : Router) (op : Operation) : r.captures <+: (r.run op).captures := by
  cases op with
  | register rule => exact List.prefix_rfl
  | response id m => exact (r.captures_onResponse id m) ▸ List.prefix_rfl
  | loadingEnd id ending => exact (r.onLoadingEnd_keeps id ending).1 ▸ List.prefix_rfl
  | takeEarlyEnd id => exact (r.captures_takeEarlyEnd id) ▸ List.prefix_rfl
  | body id body =>
    show r.captures <+: (r.settle id body).router.captures
    cases waits : find? id r.pending with
    | none =>
      exact settle_of_not_waiting waits body ▸ List.prefix_rfl
    | some p =>
      rw [settle_waiting waits]
      exact List.prefix_append _ _

/-- Captures are only added at the end, whatever is done. -/
theorem captures_runAll (r : Router) (ops : List Operation) :
    r.captures <+: (r.runAll ops).captures := by
  induction ops generalizing r with
  | nil => exact List.prefix_rfl
  | cons op rest ih => exact (r.captures_run op).trans (ih (r.run op))

/-! ## What was let in waits or has become a capture -/

/-- How many requests wait or were captured. -/
def accepted (r : Router) : Nat :=
  r.captures.length + r.pending.length

/-- A response counts as accepted exactly if it is let in. -/
theorem accepted_onResponse {r : Router} (sound : r.Sound) (id : String) (m : ResponseMeta) :
    (r.onResponse id m).1.accepted =
      r.accepted + if r.admits (.response id m) then 1 else 0 := by
  cases found : r.ruleFor? m.url with
  | none => simp [accepted, admits, onResponse_unmatched id found]
  | some rule =>
    rw [admits, onResponse_matched id found]
    cases waits : find? id r.pending with
    | none =>
      simp [accepted, isPending, waits, length_assign_of_none waits, Nat.add_assoc]
    | some p =>
      simp [accepted, isPending, waits, length_assign_of_some sound.pending waits]

/-- A response whose body is settled was waiting before and is a capture now, so that the count of
accepted responses stays. -/
theorem accepted_settle {r : Router} (sound : r.Sound) (id : String)
    (body : Except String ResponseBody) : (r.settle id body).router.accepted = r.accepted := by
  cases waits : find? id r.pending with
  | none => rw [settle_of_not_waiting waits]
  | some p =>
    have shorter := length_without_of_some sound.pending waits
    rw [settle_waiting waits]
    simp only [accepted, List.length_append, List.length_singleton]
    omega

/-- One operation: the requests that wait or were captured are one more if it lets one in. -/
theorem accepted_run {r : Router} (sound : r.Sound) (op : Operation) :
    (r.run op).accepted = r.accepted + if r.admits op then 1 else 0 := by
  cases op with
  | register rule => rfl
  | response id m => exact accepted_onResponse sound id m
  | loadingEnd id ending =>
    obtain ⟨captures, pending⟩ := r.onLoadingEnd_keeps id ending
    simp [accepted, admits, run, captures, pending]
  | takeEarlyEnd id =>
    rcases r.takeEarlyEnd_eq id with same | ⟨p, waits, taken⟩
    · simp [admits, run, same]
    · simp [accepted, admits, run, taken, length_assign_of_some sound.pending waits]
  | body id body => exact accepted_settle sound id body

/-- After any operations as many responses have been accepted as were let in. -/
theorem accepted_runAll {r : Router} (sound : r.Sound) (ops : List Operation) :
    (r.runAll ops).accepted = r.accepted + r.admissions ops := by
  induction ops generalizing r with
  | nil => rfl
  | cons op rest ih =>
    calc (r.runAll (op :: rest)).accepted
        = (r.run op).accepted + (r.run op).admissions rest := ih (sound.run op)
      _ = r.accepted + r.admissions (op :: rest) := by
        rw [accepted_run sound, admissions, Nat.add_assoc]

/-- Whatever was done with a router: a request whose end is held is neither waiting nor passed
over; later captures come after those there are; the body of a request that does not wait changes
neither the router nor any file; and the captures together with the requests that wait, each of
them there once, are as many as the responses that were let in. -/
theorem operations_account (ops : List Operation) :
    let r := Router.empty.runAll ops
    (∀ id, id ∈ requests r.earlyEnds → id ∉ requests r.pending ∧ id ∉ r.ignored) ∧
      (∀ more, r.captures <+: (Router.empty.runAll (ops ++ more)).captures) ∧
      (∀ id, r.isPending id = false → ∀ body files downloads,
        r.settleInto files downloads id body = (r, files, [])) ∧
      (requests r.pending).Nodup ∧
      r.captures.length + (requests r.pending).length = Router.empty.admissions ops := by
  intro r
  have sound : r.Sound := sound_empty.runAll ops
  refine ⟨fun id held => ?_, fun more => ?_, fun id idle body files downloads => ?_,
    sound.pending, ?_⟩
  · obtain ⟨waits, passed⟩ := sound.apart id (mem_requests_iff.mp held)
    exact ⟨not_mem_requests_iff.mpr waits, passed⟩
  · have later : Router.empty.runAll (ops ++ more) = r.runAll more := List.foldl_append
    rw [later]
    exact r.captures_runAll more
  · have waits : find? id r.pending = none := by simpa [isPending] using idle
    simp [settleInto, settle_of_not_waiting waits, Settled.findings, Finding.saveAll]
  · have count : r.accepted = _ := accepted_runAll sound_empty ops
    rw [requests, List.length_map]
    exact count.trans (Nat.zero_add _)

end Router

/-! ## What an observer does with its router -/

namespace Chrome.Observer

open Router

/-- Settling is nothing, or giving the router one body. -/
theorem settle_eq_runAll (bodies : Bodies) (o : Observer) (due : Due) :
    ∃ ops, (o.settle bodies due).router = o.router.runAll ops := by
  match due with
  | none => exact ⟨[], rfl⟩
  | some (id, .failed reason) => exact ⟨[.body id (.error reason)], rfl⟩
  | some (id, .finished) =>
    exact ⟨[.body id (BodyReply.decode (o.router.pendingType id) (bodies o.asked id))], rfl⟩

/-- An event is at most two operations: a response or an end, and the look for an early end. -/
theorem receive_eq_runAll (r : Router) (e : NetworkEvent) :
    ∃ ops, (r.receive e).1 = r.runAll ops := by
  match e with
  | .response id m =>
    unfold receive
    dsimp only
    split
    · exact ⟨[.response id m, .takeEarlyEnd id], rfl⟩
    · exact ⟨[.response id m], rfl⟩
  | .finished id => exact ⟨[.loadingEnd id .finished], rfl⟩
  | .failed id reason => exact ⟨[.loadingEnd id (.failed reason)], rfl⟩

/-- Attending to a moment does nothing with the router but operations. -/
theorem attend_eq_runAll (bodies : Bodies) (o : Observer) (x : Moment) :
    ∃ ops, (o.attend bodies x).router = o.router.runAll ops := by
  match x with
  | .rule rule => exact ⟨[.register rule], rfl⟩
  | .event e =>
    obtain ⟨received, receives⟩ := receive_eq_runAll o.router e
    obtain ⟨settled, settles⟩ := settle_eq_runAll bodies
      { o with
        router := (o.router.receive e).1
        findings := o.findings ++ (o.router.receive e).2.2.map Finding.line }
      (o.router.receive e).2.1
    refine ⟨received ++ settled, ?_⟩
    rw [runAll, List.foldl_append]
    exact settles.trans (congrArg (runAll · settled) receives)

/-- By induction on the moments: an observer only does operations. -/
theorem attendAll_eq_runAll (bodies : Bodies) (o : Observer) (ms : List Moment) :
    ∃ ops, (o.attendAll bodies ms).router = o.router.runAll ops := by
  induction ms generalizing o with
  | nil => exact ⟨[], rfl⟩
  | cons x ms ih =>
    obtain ⟨first, attends⟩ := o.attend_eq_runAll bodies x
    obtain ⟨later, follows⟩ := ih (o.attend bodies x)
    refine ⟨first ++ later, ?_⟩
    rw [runAll, List.foldl_append]
    exact follows.trans (congrArg (runAll · later) attends)

end Chrome.Observer

end PageScript
