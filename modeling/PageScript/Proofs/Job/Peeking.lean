import PageScript.Proofs.Job.Acceptance

/-!
# Looking at a text before it is read

How much the program tells about itself, and whether lines are wanted, is looked up in the text of a
job before it is known to be one. Both look-ups agree with the job that the text is, if it is one
whose parameters are named; of parameters that are given as a list the look-up sees nothing,
although the first of them is read as the level (`peeks_agree_unless_listed`). What is no object
says nothing at all.

**What it does not establish.** What the program tells where no text could be read at all.
-/

namespace PageScript

namespace Params

/-- A list gives the level first. -/
theorem find?_level_of_listed (items : List Json) :
    find? "verbose" (some (.array items)) = items.head? := by
  cases items <;> rfl

/-- What is no list gives the level in the field of that name. -/
theorem find?_level_of_named {given : Option Json} (named : ∀ items, given ≠ some (.array items)) :
    find? "verbose" given = given.bind (·.field? "verbose") := by
  cases given with
  | none => rfl
  | some p =>
    cases p with
    | array items => exact absurd rfl (named items)
    | _ => rfl

end Params

namespace Job

/-- A job is read from its document: the flag and the level are those in it. -/
theorem read_of_parse {text : String} {job : Job} (parsed : parse text = .ok job) :
    Json.parse text = .ok job.raw ∧
      job.reporting = (job.raw.field? "xy").any Lenient.flag ∧
      job.settings.verbose =
        ((Params.find? "verbose" (job.raw.field? "params")).bind Lenient.natural?).getD 0 := by
  unfold parse at parsed
  cases read : Json.parse text with
  | error e =>
    rw [read] at parsed
    cases parsed
  | ok v =>
    rw [read] at parsed
    cases v with
    | object fields =>
      change ofJson (.object fields) = .ok job at parsed
      rw [ofJson_object] at parsed
      cases given : readParams (Json.lookup? "params" fields) with
      | error e =>
        rw [given] at parsed
        cases parsed
      | ok params =>
        rw [given] at parsed
        cases parsed
        obtain rfl := readParams_eq given
        exact ⟨rfl, rfl, rfl⟩
    | _ => cases parsed

/-- Looking at a text that is a job tells the flag of the job. It tells the level of the job too,
unless the parameters are a list: then it tells zero, and the level of the job is the first item.
Of a text that is no object it tells that no lines are wanted, and zero. -/
theorem peeks_agree_unless_listed (text : String) :
    (∀ job, parse text = .ok job →
      Json.parse text = .ok job.raw ∧
      peekReporting text = job.reporting ∧
        ((∀ items, job.raw.field? "params" ≠ some (.array items)) →
          peekVerbose text = job.settings.verbose) ∧
        ∀ items, job.raw.field? "params" = some (.array items) →
          peekVerbose text = 0 ∧
            job.settings.verbose = (items.head?.bind Lenient.natural?).getD 0) ∧
      ((∀ fields, Json.parse text ≠ .ok (.object fields)) →
        peekReporting text = false ∧ peekVerbose text = 0) := by
  refine ⟨fun job parsed => ?_, fun other => ?_⟩
  · obtain ⟨read, flag, level⟩ := read_of_parse parsed
    unfold peekReporting peekVerbose
    rw [read, flag, level]
    dsimp only
    refine ⟨rfl, rfl, fun named => ?_, fun items listed => ?_⟩
    · rw [Params.find?_level_of_named named]
    · rw [listed, Params.find?_level_of_listed]
      exact ⟨rfl, rfl⟩
  · unfold peekReporting peekVerbose
    cases read : Json.parse text with
    | error e => exact ⟨rfl, rfl⟩
    | ok v =>
      cases v with
      | object fields => exact absurd read (other fields)
      | _ => exact ⟨rfl, rfl⟩

/-- A level that is given as a text, and a text that breaks off. -/
theorem peeks_agree_unless_listed_text :
    let text := "\x7b\"xy\":1,\"params\":\x7b\"verbose\":\"2x\"\x7d\x7d"
    let broken := "\x7b\"xy\":1,\"params\":"
    (∃ job, parse text = .ok job ∧ job.settings.verbose = 2 ∧
      peekReporting text = job.reporting ∧ peekVerbose text = job.settings.verbose) ∧
      peekReporting broken = false ∧ peekVerbose broken = 0 := by
  intro text broken
  have level : (parse text).toOption.map (·.settings.verbose) = some 2 := by decide +kernel
  let params? := (Json.parse text).toOption.bind (·.field? "params")
  have named : (params?.bind Json.items?).isNone = true := by decide +kernel
  have unread : (Json.parse broken).toOption.isNone = true := by decide +kernel
  refine ⟨?_, (peeks_agree_unless_listed broken).2 fun fields read => ?_⟩
  · obtain ⟨job, given, level⟩ := Option.map_eq_some_iff.mp level
    have parsed := eq_ok_of_toOption given
    obtain ⟨read, flag, agrees, -⟩ := (peeks_agree_unless_listed text).1 job parsed
    refine ⟨job, parsed, level, flag, agrees fun items listed => ?_⟩
    have found : params? = some (.array items) := by
      rw [← listed]
      exact congrArg (fun v => v.toOption.bind (·.field? "params")) read
    rw [found] at named
    cases named
  · rw [read] at unread
    cases unread

/-- A job of level two, of whose text the look-up tells zero. -/
theorem peekVerbose_listed :
    let text := "\x7b\"params\":[2]\x7d"
    ∃ job, parse text = .ok job ∧ job.settings.verbose = 2 ∧ peekVerbose text = 0 := by
  intro text
  have level : (parse text).toOption.map (·.settings.verbose) = some 2 := by decide +kernel
  obtain ⟨job, given, level⟩ := Option.map_eq_some_iff.mp level
  exact ⟨job, eq_ok_of_toOption given, level, by decide +kernel⟩

end Job

end PageScript
