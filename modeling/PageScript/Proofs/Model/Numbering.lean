import PageScript.Proofs.Files.Failing
import PageScript.Proofs.Model.Exchanges

/-!
# Numbers of exchanges

The files of exchanges are numbered by the calls that keep them, whether they can be written or not:
a number is used up by a call that fails (`recordAll_numbered`). So no two calls write to the same
file, and whatever the disk does, an exchange that could be kept is in its file at the end, with its
own request and response (`recordAll_keeps`, `Holds`). The archive of a directory holds all files
that are in it, also those that were written in part only (`packs_members`).

Calls are followed on a disk that may have a fault at each of them (`recordOn`); without one this is
how exchanges are kept (`recordOn_none`). That a number is new is what lets the invariant of the
directory (`Shelf`) pass a call: nothing that is there is written over.

**What it does not establish.** An archive is what it holds: how members are laid out and compressed
is left to the format. Nothing is said of an archive that cannot be written.
-/

namespace PageScript

namespace Model.InferenceLog

open FileTree

/-! ## Keeping exchanges on a disk that fails -/

/-- An exchange that is to be kept, with the time and the fault that the disk has meanwhile. -/
structure Exchange where
  purpose : String
  time : String
  request : Json
  response : Json
  fault? : Option Fault

namespace Exchange

/-- The document of an exchange. -/
def document (x : Exchange) : Json :=
  .object
    [("kind", .string x.purpose), ("request", x.request), ("response", x.response),
     ("timestamp", .string x.time)]

/-- The bytes of the file of an exchange: the indented text of its document. -/
def bytes (x : Exchange) : List UInt8 :=
  Text.encode x.document.printIndented.toList

/-- Where an exchange of a number is kept. -/
def path (x : Exchange) (directory : Path) (number : Nat) : Path :=
  directory.join (fileName number x.purpose)

end Exchange

/-- What there is to tell of an exchange that could not be kept. -/
def trouble (file : Path) (why : String) : List LogLine :=
  [.warning ("failed to write inference log " ++ file.text ++ ": " ++ why)]

/-- Keeps an exchange on a disk that may have a fault. Gives the log and the files afterwards, and
what there is to tell. -/
def recordOn (log : InferenceLog) (files : FileTree) (x : Exchange) :
    InferenceLog × FileTree × List LogLine :=
  let file := x.path log.directory log.next
  let log' := { log with next := log.next + 1 }
  match files.makeDirectoryOn x.fault? log.directory with
  | (files, some why) => (log', files, trouble file why)
  | (files, none) =>
    match files.writeOn x.fault? file x.bytes with
    | (files, some why) => (log', files, trouble file why)
    | (files, none) => (log', files, [])

/-- Without a fault exchanges are kept so. -/
theorem recordOn_none (log : InferenceLog) (files : FileTree) (purpose time : String)
    (request response : Json) :
    log.recordOn files ⟨purpose, time, request, response, none⟩ =
      log.record files purpose time request response := by
  unfold recordOn record makeDirectoryOn writeOn Exchange.path
  dsimp only
  cases files.makeDirectory log.directory with
  | error _ => rfl
  | ok made =>
    dsimp only [settle]
    rw [Exchange.bytes, Exchange.document, entry]
    generalize made.write _ _ = written
    cases written <;> rfl

/-- Keeps exchanges one after the other. Gives the log and the files afterwards, and what there is
to tell of each of the exchanges. -/
def recordAll (log : InferenceLog) (files : FileTree) :
    List Exchange → InferenceLog × FileTree × List (List LogLine)
  | [] => (log, files, [])
  | x :: rest =>
    let (log, files, lines) := log.recordOn files x
    let (log, files, told) := log.recordAll files rest
    (log, files, lines :: told)

/-- What becomes of the files when something is to be kept under a name in a directory, and why it
could not be kept if it could not. -/
inductive Leaves (files : FileTree) (directory : Path) (name : String) (bytes : List UInt8) :
    FileTree → Option String → Prop where
  | unmade {files' : FileTree} {why : String} {n : Nat}
    (part : files.makeAll directory.start (directory.names.take n) = .ok files') :
    Leaves files directory name bytes files' (some why)
  | unopened {made : FileTree} {why : String} (makes : files.makeDirectory directory = .ok made) :
    Leaves files directory name bytes made (some why)
  | partly {made files' : FileTree} {why : String} {n : Nat}
    (makes : files.makeDirectory directory = .ok made)
    (writes : made.write (directory.join name) (bytes.take n) = .ok files') :
    Leaves files directory name bytes files' (some why)
  | whole {made files' : FileTree} (makes : files.makeDirectory directory = .ok made)
    (writes : made.write (directory.join name) bytes = .ok files') :
    Leaves files directory name bytes files' none

/-- The next exchange has the next number, whatever becomes of this one. -/
theorem recordOn_cases (log : InferenceLog) (files : FileTree) (x : Exchange) :
    ∃ files' why?, Leaves files log.directory (fileName log.next x.purpose) x.bytes files' why? ∧
      log.recordOn files x = ({ log with next := log.next + 1 }, files',
        (why?.map (trouble (x.path log.directory log.next))).getD []) := by
  unfold recordOn
  dsimp only
  rcases files.makeDirectoryOn_cases x.fault? log.directory with
    ⟨made, makes, making⟩ | ⟨files', why, n, making, part⟩
  · rw [making]
    dsimp only
    rcases made.writeOn_cases x.fault? (x.path log.directory log.next) x.bytes with
      ⟨files', writes, writing⟩ | ⟨files', why, writing, rfl | ⟨n, writes⟩⟩
    · exact ⟨files', none, .whole makes writes, by rw [writing]; rfl⟩
    · exact ⟨files', some why, .unopened makes, by rw [writing]; rfl⟩
    · exact ⟨files', some why, .partly makes writes, by rw [writing]; rfl⟩
  · exact ⟨files', some why, .unmade part, by rw [making]; rfl⟩

/-! ## The directory of a log -/

/-- What the file of one of some exchanges is called and holds, if it could be written in part at
least. -/
def IsOf (past : List Exchange) (e : List String × Entry) : Prop :=
  ∃ (k : Nat) (x : Exchange) (content : List UInt8), past[k]? = some x ∧ content <+: x.bytes ∧
    e = ([fileName (k + 1) x.purpose], .file content)

/-- A file of one of some exchanges is one of these and of later ones. -/
theorem IsOf.append {past : List Exchange} {e : List String × Entry} (of : IsOf past e)
    (later : List Exchange) : IsOf (past ++ later) e := by
  obtain ⟨k, x, content, there, rest⟩ := of
  have within := (List.getElem?_eq_some_iff.mp there).1
  exact ⟨k, x, content, (List.getElem?_append_left within).trans there, rest⟩

/-- The directory of a log after some exchanges: it is there and holds nothing but files of these
exchanges. -/
structure Shelf (directory : Path) (place : List String) (past : List Exchange) (t : FileTree) :
    Prop where
  text : '\x00' ∉ directory.text.toList
  leads : t.walk directory.start directory.names = .ok place
  files : ∀ e ∈ t.below place, IsOf past e

/-- The directory of a log is so after some exchanges if it is there, or when it is made. -/
def Ready (directory : Path) (past : List Exchange) (t : FileTree) : Prop :=
  ∀ made, t.makeDirectory directory = .ok made → ∃ place, Shelf directory place past made

section Shelf

variable {directory : Path} {place : List String} {past : List Exchange} {t t' : FileTree}

/-- A directory that holds files of some exchanges holds files of these and of later ones. -/
theorem Shelf.append (shelf : Shelf directory place past t) (later : List Exchange) :
    Shelf directory place (past ++ later) t where
  text := shelf.text
  leads := shelf.leads
  files e mem := (shelf.files e mem).append later

/-- A directory that is there is ready as it is. -/
theorem Shelf.ready (shelf : Shelf directory place past t) : Ready directory past t := by
  intro made makes
  cases (makeDirectory_of_walk shelf.text shelf.leads).symm.trans makes
  exact ⟨place, shelf⟩

/-- The next file has a new name. -/
theorem Shelf.new (shelf : Shelf directory place past t) (purpose : String) :
    ∀ e ∈ t.below place, e.1 ≠ [fileName (past.length + 1) purpose] := by
  intro e mem same
  obtain ⟨k, x, content, there, -, rfl⟩ := shelf.files e mem
  have numbers := number_of_fileName (List.singleton_inj.mp same)
  have within := (List.getElem?_eq_some_iff.mp there).1
  omega

/-- The file of the next exchange is not there yet. -/
theorem Shelf.get?_eq_none (shelf : Shelf directory place past t) (purpose : String) :
    t.get? (place ++ [fileName (past.length + 1) purpose]) = none := by
  cases found : t.get? (place ++ [fileName (past.length + 1) purpose]) with
  | none => rfl
  | some entry =>
    have listed := mem_below_iff.mpr (mem_entries_of_get? (List.concat_ne_nil _ _) found)
    exact absurd rfl (shelf.new purpose _ listed)

/-- A file of the next exchange, or of a part of it, comes to the others, and they stay as they
are. -/
theorem Shelf.store (shelf : Shelf directory place past t) {x : Exchange}
    (plain : '/' ∉ x.purpose.toList) {content : List UInt8} (part : content <+: x.bytes)
    (written : t.write (directory.join (fileName (past.length + 1) x.purpose)) content = .ok t') :
    t.Keeps t' ∧ Shelf directory place (past ++ [x]) t' := by
  let name := fileName (past.length + 1) x.purpose
  have slash : '/' ∉ name.toList := slash_not_mem_fileName plain (past.length + 1)
  have put : t' = t.put (place ++ [name]) (.file content) :=
    store_join_eq_put slash shelf.leads written
  have keeps : t.Keeps t' := by
    rw [put]
    exact keeps_put (List.concat_ne_nil name place) (shelf.get?_eq_none x.purpose) _
  have below : t'.below place = ([name], .file content) :: t.below place :=
    below_of_store slash shelf.leads (shelf.new x.purpose) written
  refine ⟨keeps, shelf.text, walk_of_directoriesStay keeps.directoriesStay shelf.leads, ?_⟩
  rw [below]
  refine List.forall_mem_cons.mpr ⟨?_, fun e mem => (shelf.files e mem).append [x]⟩
  exact ⟨past.length, x, content, List.getElem?_concat_length, part, rfl⟩

/-- Whatever goes wrong when an exchange is to be kept, all that was there stays as it was, and the
directory is ready for the next one. -/
theorem Leaves.ready {x : Exchange} {why? : Option String} (plain : '/' ∉ x.purpose.toList)
    (leaves : Leaves t directory (fileName (past.length + 1) x.purpose) x.bytes t' why?)
    (ready : Ready directory past t) : t.Keeps t' ∧ Ready directory (past ++ [x]) t' := by
  cases leaves with
  | unmade made =>
    refine ⟨making_keeps.makeAll made, fun made' makes => ?_⟩
    obtain ⟨place, shelf⟩ := ready made' (makeDirectory_of_makeAll_take made ▸ makes)
    exact ⟨place, shelf.append [x]⟩
  | unopened makes =>
    obtain ⟨place, shelf⟩ := ready _ makes
    exact ⟨making_keeps.makeDirectory makes, (shelf.append [x]).ready⟩
  | partly makes writes =>
    obtain ⟨place, shelf⟩ := ready _ makes
    obtain ⟨keeps, shelf⟩ := shelf.store plain (List.take_prefix _ _) writes
    exact ⟨(making_keeps.makeDirectory makes).trans keeps, shelf.ready⟩
  | whole makes writes =>
    obtain ⟨place, shelf⟩ := ready _ makes
    obtain ⟨keeps, shelf⟩ := shelf.store plain List.prefix_rfl writes
    exact ⟨(making_keeps.makeDirectory makes).trans keeps, shelf.ready⟩

/-- An exchange that could be kept is there. -/
theorem Leaves.read {name : String} {bytes : List UInt8} (plain : '/' ∉ name.toList)
    (leaves : Leaves t directory name bytes t' none) :
    t'.read (directory.join name) = .ok (.file bytes) := by
  cases leaves with
  | whole makes writes =>
    rw [read_join_of_store plain plain Entry.file_ne_directory writes, if_pos rfl]

end Shelf

/-! ## All calls -/

/-- Exchanges are kept one after the other. -/
theorem recordAll_cons {log log' : InferenceLog} {files files' : FileTree} {x : Exchange}
    {lines : List LogLine} (recorded : log.recordOn files x = (log', files', lines))
    (rest : List Exchange) :
    log.recordAll files (x :: rest) =
      ((log'.recordAll files' rest).1, (log'.recordAll files' rest).2.1,
        lines :: (log'.recordAll files' rest).2.2) := by
  rw [recordAll, recorded]

/-- Calls use up one number each, and what each of them has to tell is of the file of its number and
purpose. -/
structure Numbered (log : InferenceLog) (xs : List Exchange)
    (ended : InferenceLog × FileTree × List (List LogLine)) : Prop where
  next : ended.1 = { log with next := log.next + xs.length }
  told : ended.2.2.length = xs.length
  each : ∀ (k : Nat) (x : Exchange) (lines : List LogLine),
    xs[k]? = some x → ended.2.2[k]? = some lines →
      lines = [] ∨ ∃ why, lines = trouble (x.path log.directory (log.next + k)) why

/-- Exchanges are numbered in their order, whether they can be written or not. -/
theorem recordAll_numbered (log : InferenceLog) (files : FileTree) (xs : List Exchange) :
    Numbered log xs (log.recordAll files xs) := by
  induction xs generalizing log files with
  | nil => exact ⟨rfl, rfl, nofun⟩
  | cons x rest ih =>
    obtain ⟨files', why?, -, recorded⟩ := log.recordOn_cases files x
    obtain ⟨next, told, each⟩ := ih { log with next := log.next + 1 } files'
    rw [recordAll_cons recorded]
    refine ⟨?_, ?_, fun k y lines there telling => ?_⟩
    · rw [next, List.length_cons, Nat.add_assoc, Nat.add_comm 1]
    · rw [List.length_cons, told, List.length_cons]
    · cases k with
      | zero =>
        cases there
        cases telling
        cases why? with
        | none => exact .inl rfl
        | some why => exact .inr ⟨why, rfl⟩
      | succ k =>
        have later := each k y lines there telling
        rwa [Nat.add_assoc, Nat.add_comm 1] at later

/-- The exchanges that could be kept, of which nothing was told, are in the files of their numbers,
which begin with a given one: each file holds its own exchange. -/
def Kept (directory : Path) (first : Nat) (xs : List Exchange)
    (ended : InferenceLog × FileTree × List (List LogLine)) : Prop :=
  ∀ (k : Nat) (x : Exchange), xs[k]? = some x → ended.2.2[k]? = some [] →
    ended.2.1.read (x.path directory (first + k)) = .ok (.file x.bytes) ∧
      Holds x.bytes x.purpose x.time x.request x.response

/-- Whatever goes wrong in any of the calls, the exchanges that could be kept are there at the
end. -/
theorem recordAll_keeps {directory : Path} {past : List Exchange} {files : FileTree}
    (ready : Ready directory past files) {xs : List Exchange}
    (plain : ∀ x ∈ xs, '/' ∉ x.purpose.toList) :
    let ended := InferenceLog.recordAll ⟨directory, past.length + 1⟩ files xs
    files.Keeps ended.2.1 ∧ Ready directory (past ++ xs) ended.2.1 ∧
      Kept directory (past.length + 1) xs ended := by
  induction xs generalizing past files with
  | nil => exact ⟨.refl files, (List.append_nil past).symm ▸ ready, nofun⟩
  | cons x rest ih =>
    obtain ⟨plainFirst, plainRest⟩ := List.forall_mem_cons.mp plain
    obtain ⟨files', why?, leaves, recorded⟩ :=
      recordOn_cases ⟨directory, past.length + 1⟩ files x
    obtain ⟨keeps, ready'⟩ := leaves.ready plainFirst ready
    obtain ⟨keeps', readyAll, each⟩ := ih ready' plainRest
    rw [List.length_append, List.length_singleton] at keeps' readyAll each
    rw [List.append_assoc, List.singleton_append] at readyAll
    rw [recordAll_cons recorded]
    refine ⟨keeps.trans keeps', readyAll, fun k y there telling => ?_⟩
    cases k with
    | zero =>
      cases there
      cases why? with
      | none =>
        exact ⟨keeps'.read (leaves.read (slash_not_mem_fileName plainFirst _)),
          holds_bytes x.purpose x.time x.request x.response⟩
      | some why => exact absurd (Option.some.inj telling) (List.cons_ne_nil _ _)
    | succ k =>
      have number : past.length + 1 + (k + 1) = past.length + 1 + 1 + k := by omega
      rw [number]
      exact each k y there telling

/-- Keeping an exchange keeps paths distinct, whatever is left of its file. -/
theorem Leaves.distinct {files files' : FileTree} {directory : Path} {name : String}
    {bytes : List UInt8} {why? : Option String}
    (leaves : Leaves files directory name bytes files' why?) (distinct : files.Distinct) :
    files'.Distinct := by
  cases leaves with
  | unmade made => exact making_distinct.makeAll made distinct
  | unopened makes => exact making_distinct.makeDirectory makes distinct
  | partly makes writes => exact (making_distinct.makeDirectory makes distinct).store writes
  | whole makes writes => exact (making_distinct.makeDirectory makes distinct).store writes

/-- Keeping exchanges keeps paths distinct. -/
theorem recordAll_distinct (log : InferenceLog) {files : FileTree} (distinct : files.Distinct)
    (xs : List Exchange) : (log.recordAll files xs).2.1.Distinct := by
  induction xs generalizing log files with
  | nil => exact distinct
  | cons x rest ih =>
    obtain ⟨files', why?, leaves, recorded⟩ := log.recordOn_cases files x
    rw [recordAll_cons recorded]
    exact ih _ (leaves.distinct distinct)

/-! ## The archive -/

/-- What an archive holds of an entry: the content of a file, and nothing of a directory. -/
def contentOf : Entry → Option (List UInt8)
  | .file bytes => some bytes
  | _ => none

/-- An archive holds a directory: the directory itself and all that is in it, at its path from there
under the name that logs have, once and with its content; and nothing else. -/
structure Packs (t : FileTree) (place : List String) (members : List Member) : Prop where
  once : (members.map (·.1)).Nodup
  mem_iff : ∀ path content, (path, content) ∈ members ↔
    path = [directoryName] ∧ content = none ∨
      ∃ name names entry, path = directoryName :: name :: names ∧
        t.get? (place ++ name :: names) = some entry ∧ content = contentOf entry

/-- A member of an archive has the path of its entry within the directory. -/
theorem path_of_member? {e : List String × Entry} {member : Member}
    (packed : member? e = some member) : member.1 = directoryName :: e.1 := by
  obtain ⟨path, entry⟩ := e
  cases entry <;> cases packed <;> rfl

/-- An archive holds a directory in which no archive is. -/
theorem packs_members {t : FileTree} {place : List String} (distinct : t.Distinct)
    (plain : ∀ names held, t.get? (place ++ names) ≠ some (.archive held)) :
    Packs t place (members t place) where
  once := by
    have apart := List.pairwise_map.mp (distinct.below place)
    rw [List.Nodup, List.pairwise_map, members, List.pairwise_cons, List.pairwise_filterMap]
    refine ⟨fun member mem same => ?_, apart.imp fun differ m packed m' packed' same => ?_⟩
    · obtain ⟨e, mem, packed⟩ := List.mem_filterMap.mp mem
      obtain ⟨name, names, entry, rfl⟩ := exists_of_mem_below mem
      rw [path_of_member? packed] at same
      cases same
    · rw [path_of_member? packed, path_of_member? packed'] at same
      exact differ (List.cons.inj same).2
  mem_iff path content := by
    rw [members, List.mem_cons, Prod.mk.injEq, List.mem_filterMap]
    refine or_congr_right ⟨?_, ?_⟩
    · rintro ⟨e, mem, packed⟩
      obtain ⟨name, names, entry, rfl⟩ := exists_of_mem_below mem
      have found := distinct.mem_below_iff.mp mem
      cases entry with
      | file bytes =>
        cases packed
        exact ⟨name, names, .file bytes, rfl, found, rfl⟩
      | directory =>
        cases packed
        exact ⟨name, names, .directory, rfl, found, rfl⟩
      | archive held => cases packed
    · rintro ⟨name, names, entry, rfl, found, rfl⟩
      refine ⟨_, distinct.mem_below_iff.mpr found, ?_⟩
      cases entry with
      | file bytes => rfl
      | directory => rfl
      | archive held => exact absurd found (plain _ held)

/-- Into downloads that are there and hold no directory of its name, an archive is written. -/
theorem archive_eq_ok {t : FileTree} {directory downloads : Path} {place folder : List String}
    (there : t.directory? directory = some place) (holds : t.directory? downloads = some folder)
    (free : t.get? (folder ++ [archiveName]) ≠ some .directory) :
    ∃ packed, archive t directory downloads = .ok (packed, some (downloads.join archiveName)) ∧
      packed.read (downloads.join archiveName) = .ok (.archive (members t place)) ∧
      ∀ path, path ≠ folder ++ [archiveName] → packed.get? path = t.get? path := by
  have plain : '/' ∉ archiveName.toList := by decide
  obtain ⟨text, nul, leads⟩ := directory?_eq_some_iff.mp holds
  have free_nul : '\x00' ∉ (downloads.join archiveName).text.toList := by
    intro mem
    rcases Path.mem_text_join mem with before | slash | own
    · exact nul before
    · exact absurd slash (by decide)
    · exact absurd own (by decide)
  have located : t.locate (downloads.join archiveName) = .ok (folder, some archiveName) := by
    refine locate_eq_ok_iff.mpr ⟨free_nul, ?_, ?_, downloads.getLast?_names_join plain, ?_⟩
    · simpa using Path.text_join_ne_empty text plain
    · rw [downloads.start_join plain, downloads.walk_join plain, leads]
    · decide
  have stored : t.store (downloads.join archiveName) (.archive (members t place)) =
      .ok (t.put (folder ++ [archiveName]) (.archive (members t place))) :=
    store_eq_ok_iff.mpr ⟨folder, archiveName, located, free, rfl⟩
  refine ⟨t.put (folder ++ [archiveName]) (.archive (members t place)), ?_, ?_,
    fun path other => ?_⟩
  · rw [archive, there]
    dsimp only
    rw [stored]
  · have file : Entry.archive (members t place) ≠ .directory := nofun
    rw [read_join_of_store plain plain file stored, if_pos rfl]
  · rw [get?_put (List.concat_ne_nil _ _), if_neg other]

/-! ## Numbers and archive -/

/-- Nothing lies in the directory of a path, if it is there, or as soon as it is made. -/
def StartsEmpty (directory : Path) (t : FileTree) : Prop :=
  ∀ made place, t.makeDirectory directory = .ok made →
    made.walk directory.start directory.names = .ok place → made.below place = []

/-- A directory that is empty, or can still be made, is ready for the first exchange. -/
theorem StartsEmpty.ready {directory : Path} {t : FileTree} (empty : StartsEmpty directory t) :
    Ready directory [] t := by
  intro made makes
  obtain ⟨place, leads⟩ := walk_of_makeDirectory makes
  have nothing := empty made place makes leads
  refine ⟨place, text_of_makeDirectory makes, leads, ?_⟩
  rw [nothing]
  exact List.forall_mem_nil _

/-- A directory that is ready and is there is the directory of a log. -/
theorem Ready.shelf {directory : Path} {place : List String} {past : List Exchange} {t : FileTree}
    (ready : Ready directory past t) (there : t.directory? directory = some place) :
    Shelf directory place past t := by
  obtain ⟨-, nul, leads⟩ := directory?_eq_some_iff.mp there
  obtain ⟨place', shelf⟩ := ready t (makeDirectory_of_walk nul leads)
  cases leads.symm.trans shelf.leads
  exact shelf

/-- Files of different numbers have different names. Without a fault of the disk exchanges are kept
as they are on a disk that may have faults. Of calls on such a disk the k-th one has the number k,
and if it fails it tells so of the file that is named by its number and purpose. If the directory is
empty at first, every exchange that could be kept is in the file so named at the end, with what was
asked and what was answered, and nothing is in the directory but files of exchanges, whole or in
part. Packing any directory of files puts an archive among the downloads that holds what is in the
directory and nothing else, and changes nothing there; nothing is packed if there is no directory.
-/
theorem exchanges_numbered :
    (∀ j k p q, fileName j p = fileName k q → j = k) ∧
      (∀ (log : InferenceLog) files purpose time request response,
        log.recordOn files ⟨purpose, time, request, response, none⟩ =
          log.record files purpose time request response) ∧
      (∀ (directory : Path) (files : FileTree) (xs : List Exchange),
        (∀ x ∈ xs, x.purpose = "act" ∨ x.purpose = "extract") →
        let ended := (ofDirectory directory).recordAll files xs
        Numbered (ofDirectory directory) xs ended ∧
          (files.Distinct → ended.2.1.Distinct) ∧
          (StartsEmpty directory files → Kept directory 1 xs ended ∧
            ∀ place, ended.2.1.directory? directory = some place →
              ∀ name names entry, ended.2.1.get? (place ++ name :: names) = some entry →
                IsOf xs (name :: names, entry))) ∧
      ∀ (t : FileTree) (directory downloads : Path),
        (t.directory? directory = none → archive t directory downloads = .ok (t, none)) ∧
        ∀ place folder, t.directory? directory = some place →
          t.directory? downloads = some folder → t.Distinct →
          (∀ names held, t.get? (place ++ names) ≠ some (.archive held)) →
          ¬ place <+: folder ++ [archiveName] →
          t.get? (folder ++ [archiveName]) ≠ some .directory →
          ∃ packed members,
            archive t directory downloads = .ok (packed, some (downloads.join archiveName)) ∧
              packed.read (downloads.join archiveName) = .ok (.archive members) ∧
              Packs t place members ∧
              ∀ names, packed.get? (place ++ names) = t.get? (place ++ names) := by
  refine ⟨fun j k p q => number_of_fileName, recordOn_none, ?_, ?_⟩
  · intro directory files xs purposes ended
    have plain : ∀ x ∈ xs, '/' ∉ x.purpose.toList := by
      intro x mem
      obtain purpose | purpose := purposes x mem <;> rw [purpose] <;> decide
    refine ⟨recordAll_numbered (ofDirectory directory) files xs,
      fun distinct => recordAll_distinct _ distinct xs, fun empty => ?_⟩
    obtain ⟨-, ready, kept⟩ := recordAll_keeps empty.ready plain
    refine ⟨kept, fun place there name names entry found => ?_⟩
    have below : place ++ name :: names ≠ [] := by simp
    have shelf : Shelf directory place xs ended.2.1 := ready.shelf there
    exact shelf.files _ (mem_below_iff.mpr (mem_entries_of_get? below found))
  · refine fun t directory downloads => ⟨fun none => by rw [archive, none], ?_⟩
    intro place folder there holds distinct plain apart free
    obtain ⟨packed, packs, reads, others⟩ := archive_eq_ok there holds free
    refine ⟨packed, _, packs, reads, packs_members distinct plain, fun names => others _ ?_⟩
    exact fun same => apart (same ▸ List.prefix_append place names)

/-- Of four exchanges the disk takes five bytes of the second and none of the third; the fourth is
kept under its own number and read back, and what there is of the second is packed with it. -/
theorem exchanges_numbered_diskFull :
    let files : FileTree := ⟨[(["downloads"], .directory)]⟩
    let exchange (purpose : String) (fault? : Option Fault) : Exchange :=
      ⟨purpose, "2024-05-17T08:00:00+00:00", .null, .string purpose, fault?⟩
    let xs := [exchange "act" none, exchange "act" (some (.writing 5 "disk full")),
      exchange "extract" (some (.opening "disk full")), exchange "extract" none]
    let ended := (ofDirectory ⟨[], "/log"⟩).recordAll files xs
    StartsEmpty ⟨[], "/log"⟩ files ∧ ended.1 = ⟨⟨[], "/log"⟩, 5⟩ ∧
      ended.2.2.map (·.isEmpty) = [true, false, false, true] ∧
      (∃ content v, ended.2.1.read ⟨[], "/log/004-extract.json"⟩ = .ok (.file content) ∧
        Json.parseBytes content = .ok v ∧ v.field? "kind" = some (.string "extract") ∧
        v.field? "request" = some .null ∧ v.field? "response" = some (.string "extract")) ∧
      ∃ packed members, archive ended.2.1 ⟨[], "/log"⟩ ⟨[], "/downloads"⟩ =
          .ok (packed, some ⟨[], "/downloads/inference_summary.tar.gz"⟩) ∧
        packed.read ⟨[], "/downloads/inference_summary.tar.gz"⟩ = .ok (.archive members) ∧
        (["inference_summary", "002-act.json"], some [0x7B, 0x0A, 0x20, 0x20, 0x22]) ∈ members ∧
        ∀ content, (["inference_summary", "003-extract.json"], content) ∉ members := by
  intro files exchange xs ended
  have makes : files.makeDirectory ⟨[], "/log"⟩ =
      .ok ⟨[(["log"], .directory), (["downloads"], .directory)]⟩ := by decide +kernel
  have empty : StartsEmpty ⟨[], "/log"⟩ files := by
    intro made place makes' leads
    cases makes.symm.trans makes'
    have log : ["log"] = place := Except.ok.inj (Eq.trans (by decide +kernel) leads)
    subst log
    decide +kernel
  have purposes : ∀ x ∈ xs, x.purpose = "act" ∨ x.purpose = "extract" := by
    decide
  have told : ended.2.2.map (·.isEmpty) = [true, false, false, true] := by decide +kernel
  have last : ended.2.2[3]? = some [] := by decide +kernel
  have file : (exchange "extract" none).path ⟨[], "/log"⟩ (1 + 3) =
      ⟨[], "/log/004-extract.json"⟩ := by decide +kernel
  have target : (Path.mk [] "/downloads").join archiveName =
      ⟨[], "/downloads/inference_summary.tar.gz"⟩ := by decide +kernel
  have account := exchanges_numbered.2.2.1 ⟨[], "/log"⟩ files xs purposes
  have recorded : (ofDirectory ⟨[], "/log"⟩).recordAll files xs = ended := rfl
  rw [recorded] at account
  obtain ⟨numbered, distinct, account⟩ := account
  obtain ⟨kept, others⟩ := account empty
  obtain ⟨reads, holds⟩ := kept 3 (exchange "extract" none) rfl last
  rw [file] at reads
  obtain ⟨v, parsed, kind, request, response, -⟩ :=
    holds.reread ⟨.scalar rfl, .null⟩ ⟨.scalar rfl, .string "extract"⟩
  have plain : ∀ names held, ended.2.1.get? (["log"] ++ names) ≠ some (.archive held) := by
    intro names held found
    cases names with
    | nil =>
      have directory : ended.2.1.get? ["log"] = some .directory := by decide +kernel
      cases directory.symm.trans found
    | cons name names =>
      obtain ⟨k, x, content, -, -, same⟩ := others ["log"] (by decide +kernel) name names _ found
      cases same
  obtain ⟨packed, members, archived, read, packs, -⟩ :=
    (exchanges_numbered.2.2.2 ended.2.1 ⟨[], "/log"⟩ ⟨[], "/downloads"⟩).2 ["log"] ["downloads"]
      (by decide +kernel) (by decide +kernel) (distinct (List.nodup_singleton _)) plain (by decide)
      (by decide +kernel)
  rw [target] at archived read
  refine ⟨empty, numbered.next, told, ⟨_, v, reads, parsed, kind, request, response⟩, packed,
    members, archived, read, ?_, fun content mem => ?_⟩
  · refine (packs.mem_iff _ _).mpr (.inr ⟨"002-act.json", [], .file _, rfl, ?_, rfl⟩)
    decide +kernel
  · obtain ⟨own, -⟩ | ⟨name, names, entry, same, found, -⟩ := (packs.mem_iff _ _).mp mem
    · cases own
    · obtain ⟨rfl, rfl⟩ := List.cons.inj (List.cons.inj same).2
      have none : ended.2.1.get? (["log"] ++ ["003-extract.json"]) = none := by decide +kernel
      cases none.symm.trans found

end Model.InferenceLog

end PageScript
