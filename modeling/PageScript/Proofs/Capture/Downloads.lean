import PageScript.Capture.Saving
import PageScript.Proofs.Capture.FileNames
import PageScript.Proofs.Capture.Operations
import PageScript.Proofs.Files.Growth

/-!
# What the downloads directory holds

A file of the downloads directory holds what was stored last under its name, and nothing but the
bodies of requests that wait for a download is ever stored (`downloads_account`): the bytes of a
body that was read, and none of one that was not (`Router.Asks`). That needs little of the
directory: a write stores everything or leaves every file as it is, and two names are two files
(`Shelf`). Directories of a `FileTree` are of this kind (`Shelf.directory`).

**What it does not establish.** A write that fails half-way is none of those assumed here, and
names that differ may be one file where a file system is not particular about letters.
-/

namespace PageScript

/-! ## Directories -/

/-- A directory, as far as single names tell. A write stores all bytes under its name and leaves
the other files alone, or fails and leaves all files alone. -/
structure Shelf (σ : Type) where
  /-- What is in the file of a name, if there is one. -/
  content : σ → String → Option (List UInt8)
  /-- Writes a file. Gives whether that worked, and the files afterwards. -/
  write : σ → Download → Bool × σ
  stored : ∀ s d name, '/' ∉ d.name.toList → '/' ∉ name.toList → (write s d).1 = true →
    content (write s d).2 name = if name = d.name then some d.bytes else content s name
  kept : ∀ s d name, '/' ∉ d.name.toList → '/' ∉ name.toList → (write s d).1 = false →
    content (write s d).2 name = content s name

namespace Router

/-- An operation is the body of a request that waits for a download, and this is the file to
write: under the derived name, the bytes of the body if it was read, and none if it was not. -/
def Asks (r : Router) (op : Operation) (d : Download) : Prop :=
  ∃ id body p, op = .body id body ∧ find? id r.pending = some p ∧ p.rule.download = true ∧
    d =
      { name := FileName.derive p.response.url p.response.contentType
        bytes :=
          match body with
          | .ok read => read.fileBytes p.rule.pretty
          | .error _ => [] }

/-- The file that an operation leads to. -/
def download? (r : Router) : Operation → Option Download
  | .body id body => (r.settle id body).download
  | _ => none

theorem download?_eq_some_iff {r : Router} {op : Operation} {d : Download} :
    r.download? op = some d ↔ r.Asks op d := by
  have file (pretty : Bool) (body : Except String ResponseBody) :
      bodyBytes pretty body =
        match body with
        | .ok read => read.fileBytes pretty
        | .error _ => [] := by
    rw [bodyBytes_eq]
    cases body <;> rfl
  constructor
  · intro asked
    cases op with
    | body id body =>
      simp only [download?] at asked
      cases waits : find? id r.pending with
      | none => rw [settle_of_not_waiting waits] at asked; cases asked
      | some p =>
        simp only [settle, waits] at asked
        split at asked
        · rename_i downloads
          exact ⟨id, body, p, rfl, waits, downloads, file p.rule.pretty body ▸
            (Option.some.inj asked).symm⟩
        · cases asked
    | register rule => cases asked
    | response id m => cases asked
    | loadingEnd id ending => cases asked
    | takeEarlyEnd id => cases asked
  · rintro ⟨id, body, p, rfl, waits, downloads, rfl⟩
    simp only [download?, settle, waits, downloads, if_true, file]

/-- What is asked for has a single name. -/
theorem Asks.plain {r : Router} {op : Operation} {d : Download} (asks : r.Asks op d) :
    '/' ∉ d.name.toList := by
  obtain ⟨id, body, p, -, -, -, rfl⟩ := asks
  exact FileName.slash_not_mem_derive _ _

end Router

namespace Shelf

open Router

variable {σ : Type} (shelf : Shelf σ)

/-- The files after one was to be written, if any. -/
def file (s : σ) : Option Download → σ
  | none => s
  | some d => (shelf.write s d).2

/-- An operation with the file it leads to. -/
def step (x : Router × σ) (op : Operation) : Router × σ :=
  (x.1.run op, shelf.file x.2 (x.1.download? op))

def steps (x : Router × σ) (ops : List Operation) : Router × σ :=
  ops.foldl shelf.step x

/-- An operation, at its moment, stores a file. -/
def Stores (x : Router × σ) (ops : List Operation) (i : Nat) (d : Download) : Prop :=
  ∃ op, ops[i]? = some op ∧ (shelf.steps x (ops.take i)).1.Asks op d ∧
    (shelf.write (shelf.steps x (ops.take i)).2 d).1 = true

variable {shelf} {x : Router × σ} {op : Operation} {d : Download} {name : String}

/-- The router takes no notice of the files. -/
theorem steps_fst (x : Router × σ) (ops : List Operation) :
    (shelf.steps x ops).1 = x.1.runAll ops := by
  induction ops generalizing x with
  | nil => rfl
  | cons op rest ih => exact ih (shelf.step x op)

theorem step_of_asks (asks : x.1.Asks op d) :
    shelf.step x op = (x.1.run op, (shelf.write x.2 d).2) := by
  rw [step, download?_eq_some_iff.mpr asks, file]

/-- What asks for no file leaves all of them as they are. -/
theorem step_of_not_asks (idle : ∀ d, ¬ x.1.Asks op d) : (shelf.step x op).2 = x.2 := by
  cases asked : x.1.download? op with
  | none => rw [step, asked, file]
  | some d => exact absurd (download?_eq_some_iff.mp asked) (idle d)

/-- One operation leaves a file as it is unless it stores one of that name. -/
theorem content_step_of_other (plain : '/' ∉ name.toList)
    (other : ∀ d, x.1.Asks op d → (shelf.write x.2 d).1 = true → d.name ≠ name) :
    shelf.content (shelf.step x op).2 name = shelf.content x.2 name := by
  by_cases asked : ∃ d, x.1.Asks op d
  · obtain ⟨d, asks⟩ := asked
    rw [step_of_asks asks]
    cases worked : (shelf.write x.2 d).1 with
    | false => exact shelf.kept _ _ _ asks.plain plain worked
    | true => rw [shelf.stored _ _ _ asks.plain plain worked, if_neg (other d asks worked).symm]
  · rw [step_of_not_asks (not_exists.mp asked)]

/-- After any operations, a file that none of them stored is as it was. -/
theorem content_steps_of_not_stored (plain : '/' ∉ name.toList) {ops : List Operation}
    (never : ∀ i d, shelf.Stores x ops i d → d.name ≠ name) :
    shelf.content (shelf.steps x ops).2 name = shelf.content x.2 name := by
  induction ops generalizing x with
  | nil => rfl
  | cons op rest ih =>
    calc shelf.content (shelf.steps x (op :: rest)).2 name
        = shelf.content (shelf.step x op).2 name :=
          ih fun i d stores => never (i + 1) d stores
      _ = shelf.content x.2 name :=
          content_step_of_other plain fun d asks worked => never 0 d ⟨op, rfl, asks, worked⟩

/-- After any operations, a file that was stored is as it was stored last. -/
theorem content_steps_of_last {ops : List Operation} {i : Nat} (stores : shelf.Stores x ops i d)
    (last : ∀ j > i, ∀ e, shelf.Stores x ops j e → e.name ≠ d.name) :
    shelf.content (shelf.steps x ops).2 d.name = some d.bytes := by
  induction ops generalizing x i with
  | nil =>
    obtain ⟨op, there, -⟩ := stores
    cases there
  | cons op rest ih =>
    cases i with
    | succ i => exact ih stores fun j later e again => last (j + 1) (by omega) e again
    | zero =>
      obtain ⟨_, ⟨⟩, (asks : x.1.Asks op d), (worked : (shelf.write x.2 d).1 = true)⟩ := stores
      have plain := asks.plain
      calc shelf.content (shelf.steps x (op :: rest)).2 d.name
          = shelf.content (shelf.step x op).2 d.name :=
            content_steps_of_not_stored plain fun j e again => last (j + 1) (by omega) e again
        _ = some d.bytes := by
            rw [step_of_asks asks, shelf.stored _ _ _ plain plain worked, if_pos rfl]

end Shelf

/-! ## Directories of a file tree -/

/-- The bytes of a file, if a file is there. -/
def Entry.bytes? : Entry → Option (List UInt8)
  | .file bytes => some bytes
  | _ => none

/-- The directory that a path leads to in a file tree. -/
def Shelf.directory (downloads : Path) : Shelf FileTree where
  content t name := (t.read (downloads.join name)).toOption.bind Entry.bytes?
  write t d :=
    match t.write (downloads.join d.name) d.bytes with
    | .ok t' => (true, t')
    | .error _ => (false, t)
  stored t d name plain plain' worked := by
    split at worked
    · rename_i t' written
      simp only [FileTree.read_join_of_store plain plain' Entry.file_ne_directory written]
      split <;> rfl
    · cases worked
  kept t d name plain plain' failed := by
    split at failed
    · cases failed
    · rfl

/-- Giving a router a body with the file written is an operation on the downloads directory. -/
theorem Router.settleInto_eq_step (r : Router) (files : FileTree) (downloads : Path) (id : String)
    (body : Except String ResponseBody) :
    ((r.settleInto files downloads id body).1, (r.settleInto files downloads id body).2.1) =
      (Shelf.directory downloads).step (r, files) (.body id body) := by
  have told (lines : List LogLine) (rest : List Finding) :
      (Finding.saveAll files downloads (lines.map .line ++ rest)).1 =
        (Finding.saveAll files downloads rest).1 := by
    induction lines with
    | nil => rfl
    | cons line lines ih => exact ih
  simp only [settleInto, Settled.findings, told, Shelf.step, run, download?]
  cases (r.settle id body).download with
  | none => rfl
  | some d =>
    simp only [Option.toList_some, List.map_singleton, Finding.saveAll, Finding.save,
      Download.save, Shelf.file, Shelf.directory]
    cases files.write (downloads.join d.name) d.bytes <;> rfl

namespace Shelf

open Router

/-- Whatever is done with a router, and whichever writes fail: the router is what it would be
without any files; a file holds what was stored last under its name, and is as it was if nothing
was; what is captured into the output document touches no file; a write that fails leaves a capture
with the name of the file and the files as they are. In a file tree, this is what settling a body
into its downloads directory does. -/
theorem downloads_account (shelf : Shelf σ) (r : Router) (files : σ) (ops : List Operation) :
    let after := shelf.steps (r, files) ops
    after.1 = r.runAll ops ∧
      (∀ name, '/' ∉ name.toList →
        (∀ i d, shelf.Stores (r, files) ops i d → d.name = name →
          (∀ j > i, ∀ e, shelf.Stores (r, files) ops j e → e.name ≠ name) →
          shelf.content after.2 name = some d.bytes) ∧
        ((∀ i d, shelf.Stores (r, files) ops i d → d.name ≠ name) →
          shelf.content after.2 name = shelf.content files name)) ∧
      (∀ id p body, find? id after.1.pending = some p →
        let name := FileName.derive p.response.url p.response.contentType
        let next := shelf.step after (.body id body)
        (p.rule.download = false → next.2 = after.2) ∧
        (p.rule.download = true →
          ∃ d, after.1.Asks (.body id body) d ∧ d.name = name ∧
            ((shelf.write after.2 d).1 = false →
              next.1 =
                { after.1 with
                  pending := without id after.1.pending
                  captures := after.1.captures ++
                    [⟨p.response.url, p.response.status, p.response.headers, .file name⟩] } ∧
              ∀ other, '/' ∉ other.toList →
                shelf.content next.2 other = shelf.content after.2 other))) ∧
      (∀ tree downloads id body,
        ((r.settleInto tree downloads id body).1, (r.settleInto tree downloads id body).2.1) =
          (directory downloads).step (r, tree) (.body id body)) := by
  intro after
  refine ⟨steps_fst _ _, fun name plain => ⟨?_, ?_⟩, fun id p body waits => ⟨?_, ?_⟩,
    fun tree downloads id body => r.settleInto_eq_step tree downloads id body⟩
  · rintro i d stores rfl last
    exact content_steps_of_last stores last
  · exact content_steps_of_not_stored plain
  · intro inline
    refine step_of_not_asks ?_
    rintro d ⟨_, _, p', ⟨⟩, waits', downloads, -⟩
    rw [waits, Option.some.injEq] at waits'
    rw [← waits', inline] at downloads
    cases downloads
  · intro downloads
    have asks : after.1.Asks (.body id body) _ := ⟨id, body, p, rfl, waits, downloads, rfl⟩
    refine ⟨_, asks, rfl, fun failed => ?_⟩
    rw [step_of_asks asks]
    refine ⟨?_, fun other plain => shelf.kept _ _ _ asks.plain plain failed⟩
    show (after.1.settle id body).router = _
    rw [settle_waiting waits]
    simp only [captureOf, downloads, if_true]

/-- Two documents of one name, the first of which cannot be read, and a text that cannot be read
either. -/
def sameName : List Operation :=
  [.register ⟨".json", true, true⟩, .register ⟨".txt", true, false⟩,
   .response "a" ⟨"http://h/x.json", 200, []⟩, .response "b" ⟨"http://h/x.json", 200, []⟩,
   .response "c" ⟨"http://h/y.txt", 200, []⟩, .body "c" (.error "gone"), .body "a" (.error "gone"),
   .body "b" (.ok (.json (.array [.null])))]

/-- The file of a name is that of the last body, laid out for reading; a body that cannot be read
leaves an empty file, and a file of another name stays. -/
theorem downloads_account_sameName :
    let shelf := directory ⟨[], "/d"⟩
    let files : FileTree := ⟨[(["d", "z"], .file [0x7A]), (["d"], .directory)]⟩
    let after := shelf.steps (Router.empty, files) sameName
    shelf.content after.2 "x.json" =
        some [0x5B, 0x0A, 0x09, 0x6E, 0x75, 0x6C, 0x6C, 0x0A, 0x5D, 0x0A] ∧
      shelf.content after.2 "y.txt" = some [] ∧ shelf.content after.2 "z" = some [0x7A] := by
  intro shelf files after
  obtain ⟨-, contents, -⟩ := downloads_account shelf Router.empty files sameName
  let d : Download := ⟨"x.json", [0x5B, 0x0A, 0x09, 0x6E, 0x75, 0x6C, 0x6C, 0x0A, 0x5D, 0x0A]⟩
  have asks : (shelf.steps (Router.empty, files) (sameName.take 7)).1.Asks
      (.body "b" (.ok (.json (.array [.null])))) d := by
    rw [steps_fst]
    refine ⟨"b", _, ⟨⟨".json", true, true⟩, ⟨"http://h/x.json", 200, []⟩, none⟩, rfl, rfl, rfl, ?_⟩
    decide +kernel
  have stores : shelf.Stores (Router.empty, files) sameName 7 d :=
    ⟨_, rfl, asks, by decide +kernel⟩
  have last : ∀ j > 7, ∀ e, shelf.Stores (Router.empty, files) sameName j e → e.name ≠ d.name := by
    rintro j later e ⟨op, there, -⟩
    rw [List.getElem?_eq_none (show sameName.length ≤ j from later)] at there
    cases there
  exact ⟨(contents "x.json" (by decide)).1 7 d stores rfl last, by decide +kernel,
    by decide +kernel⟩

end Shelf

end PageScript
