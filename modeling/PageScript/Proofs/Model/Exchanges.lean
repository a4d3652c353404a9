import PageScript.Proofs.Files.Directories
import PageScript.Proofs.Json.RoundTrip
import PageScript.Proofs.Model.Outward
import PageScript.Proofs.Model.Timestamps
import PageScript.Proofs.Text.Encoding
import PageScript.Proofs.Text.Numerals

/-!
# The exchanges that are kept

A request is answered if a reply comes back, whatever its status and content. Not every reply is
kept: what is no JSON document is given up before it would be recorded. So the log of a run holds
the requests that were answered with a document, one file for each, numbered in the order of the
requests (`exchanges_kept`), and a reply that is no document leaves no trace in it
(`reply_not_kept`).

A file holds an exchange as the text of one object, which is read back from it unless the reply
nests too deep or has numbers that reading changes (`Holds`). The requests of a client are no
trouble there (`keepable_requestBody`).

The exchanges of a run are told from its requests and the server alone (`Server.exchanges`). What
one exchange adds to the files (`Shelved.record`) is followed through a whole run by an account that
everything in the run keeps (`accounts_exchanges`).

**What it does not establish.** Nothing is said of a log that cannot be written: that is the matter
of the numbers of exchanges. The time in a file is whatever the clock of the client says.
-/

namespace PageScript

open Run

/-! ## Exchanges -/

namespace Model

/-- The requests that a server answers with a document, each with it, when others were sent
before. -/
def Server.exchanges (server : Server) (before : List Request) :
    List Request → List (Request × Json)
  | [] => []
  | request :: rest =>
    let sent := before ++ [request]
    ((server sent).document?.map (request, ·)).toList ++ Server.exchanges server sent rest

/-- One more request adds its exchange, if it was answered with a document. -/
theorem Server.exchanges_concat (server : Server) (request : Request) (sent before : List Request) :
    server.exchanges before (sent ++ [request]) =
      server.exchanges before sent ++
        ((server (before ++ sent ++ [request])).document?.map (request, ·)).toList := by
  induction sent generalizing before with
  | nil => simp [exchanges]
  | cons first rest ih => simp [exchanges, ih]

/-- If a server answers with documents only, its exchanges are those of all requests. -/
theorem Server.exchanges_of_documents (server : Server) (sent before : List Request)
    (documents : ∀ sofar, sofar <+: sent → sofar ≠ [] →
      (server (before ++ sofar)).document?.isSome = true) :
    (server.exchanges before sent).map (·.1) = sent := by
  induction sent generalizing before with
  | nil => rfl
  | cons first rest ih =>
    obtain ⟨reply, found⟩ := Option.isSome_iff_exists.mp
      (documents [first] (by simp) (List.cons_ne_nil _ _))
    have others := ih (before ++ [first]) fun sofar within _ => by
      rw [List.append_assoc]
      exact documents (first :: sofar) (List.prefix_cons_inj first |>.mpr within)
        (List.cons_ne_nil _ _)
    simp [exchanges, found, others]

/-- What was exchanged was sent, and it was answered with the document. -/
theorem Server.of_mem_exchanges {server : Server} {sent before : List Request}
    {exchange : Request × Json} (mem : exchange ∈ server.exchanges before sent) :
    exchange.1 ∈ sent ∧ ∃ sofar, (server sofar).document? = some exchange.2 := by
  induction sent generalizing before with
  | nil => cases mem
  | cons first rest ih =>
    rw [exchanges, List.mem_append] at mem
    rcases mem with here | later
    · obtain ⟨reply, answered, rfl⟩ := Option.map_eq_some_iff.mp (Option.mem_toList.mp here)
      exact ⟨List.mem_cons_self, _, answered⟩
    · exact (ih later).imp_left (List.mem_cons_of_mem _)

namespace InferenceLog

/-! ## What a file holds -/

/-- What can be read back from the file of an exchange: it does not nest too deep inside the object
of the exchange, and its numbers are read back from their texts. -/
structure Keepable (v : Json) : Prop where
  readable : v.Readable (Json.deepest - 1)
  exact : v.Exact

/-- A reply without items can be kept. -/
theorem keepable_noItems : Keepable (.array []) where
  readable := by
    show Json.Readable (125 + 1) (.array [])
    exact .array (List.forall_mem_nil _)
  exact := .array (List.forall_mem_nil _)

/-- The bytes of a file hold an exchange: they are the indented text of an object that has what the
exchange was for, what was asked, what was answered and when, and they are read as that object if
what was asked and answered can be read back at all. -/
structure Holds (content : List UInt8) (purpose time : String) (request response : Json) :
    Prop where
  text : content = Text.encode (Json.printIndented (.object
    [("kind", .string purpose), ("request", request), ("response", response),
     ("timestamp", .string time)])).toList
  reread : Keepable request → Keepable response →
    ∃ v, Json.parseBytes content = .ok v ∧ v.field? "kind" = some (.string purpose) ∧
      v.field? "request" = some request ∧ v.field? "response" = some response ∧
      v.field? "timestamp" = some (.string time)

/-- Blanks separate. -/
theorem separators_blanks : Json.Separators [' ', ' '] := by
  simp [Json.Separators, Json.isSeparator]

/-- The indented text of a value is read as the value. -/
theorem parseBytes_indented {v : Json} (readable : v.Readable Json.deepest) (exact : v.Exact) :
    Json.parseBytes (Text.encode v.printIndented.toList) = .ok v := by
  let layout := Json.Layout.byLines _ separators_blanks
  have read : Json.parseSymbols (([] ++ layout.text 0 v ++ []).map .char) = .ok v :=
    layout.parseSymbols_text readable exact Json.separators_nil Json.separators_nil
  rw [List.nil_append, List.append_nil, ← Text.symbols_encode] at read
  rwa [Json.parseBytes, Json.printIndented, String.toList_ofList]

/-- What an entry tells of its exchange. -/
theorem field?_entry (purpose time : String) (request response : Json) :
    (entry purpose time request response).field? "kind" = some (.string purpose) ∧
      (entry purpose time request response).field? "request" = some request ∧
      (entry purpose time request response).field? "response" = some response ∧
      (entry purpose time request response).field? "timestamp" = some (.string time) := by
  simp [entry, Json.field?, Json.lookup?]

/-- An entry is one level deeper than what was asked and answered. -/
theorem entry_readable {request response : Json} (asked : Keepable request)
    (answered : Keepable response) (purpose time : String) :
    (entry purpose time request response).Readable Json.deepest ∧
      (entry purpose time request response).Exact := by
  have ascending : Json.Ascending [("kind", .string purpose), ("request", request),
      ("response", response), ("timestamp", .string time)] := by
    have names : ["kind", "request", "response", "timestamp"].Pairwise (· < ·) := by decide
    exact (List.pairwise_map (f := Prod.fst)).mp names
  refine ⟨.object ascending ?_, .object ?_⟩
  · simp only [List.forall_mem_cons, List.not_mem_nil, false_implies, implies_true, and_true]
    exact ⟨.scalar rfl, asked.readable, answered.readable, .scalar rfl⟩
  · simp only [List.forall_mem_cons, List.not_mem_nil, false_implies, implies_true, and_true]
    exact ⟨.string purpose, asked.exact, answered.exact, .string time⟩

/-- The file of an exchange holds it. -/
theorem holds_bytes (purpose time : String) (request response : Json) :
    Holds (bytes purpose time request response) purpose time request response where
  text := rfl
  reread asked answered := by
    obtain ⟨readable, exact⟩ := entry_readable asked answered purpose time
    exact ⟨_, parseBytes_indented readable exact, field?_entry purpose time request response⟩

/-! ## Files of exchanges -/

/-- The file of an exchange in the directory of the log. -/
def fileOf (number : Nat) (time : String) (exchange : Request × Json) : List String × Entry :=
  ([fileName number exchange.1.purpose],
    .file (bytes exchange.1.purpose time exchange.1.body exchange.2))

/-- The files of exchanges, the last one first. -/
inductive FilesOf : List (Request × Json) → List (List String × Entry) → Prop where
  | none : FilesOf [] []
  | more {kept : List (Request × Json)} {files : List (List String × Entry)} (time : String)
      {exchange : Request × Json} (plain : '/' ∉ exchange.1.purpose.toList) :
    FilesOf kept files →
      FilesOf (kept ++ [exchange]) (fileOf (kept.length + 1) time exchange :: files)

/-- The name of a file is the number of its exchange and the purpose. -/
theorem toList_fileName (number : Nat) (purpose : String) :
    (fileName number purpose).toList =
      Text.paddedDecimal 3 number ++ '-' :: (purpose.toList ++ ".json".toList) := by
  simp [fileName, String.toList_append]

/-- Files of different numbers have different names. -/
theorem number_of_fileName {a b : Nat} {p q : String} (same : fileName a p = fileName b q) :
    a = b := by
  have digits : ∀ n purpose, (fileName n purpose).toList.takeWhile Char.isDigit =
      Text.paddedDecimal 3 n := by
    intro n purpose
    rw [toList_fileName, List.takeWhile_append_of_pos (Text.paddedDecimal_isDigit 3 n)]
    simp
  rw [← Text.decimalValue_paddedDecimal 3 a, ← digits a p, same, digits,
    Text.decimalValue_paddedDecimal]

/-- There is no slash in the name of a file, if there is none in the purpose. -/
theorem slash_not_mem_fileName {purpose : String} (plain : '/' ∉ purpose.toList) (number : Nat) :
    '/' ∉ (fileName number purpose).toList := by
  rw [toList_fileName]
  intro mem
  simp only [List.mem_append, List.mem_cons] at mem
  obtain digit | slash | slash | slash := mem
  · have isDigit := Text.paddedDecimal_isDigit 3 number '/' digit
    revert isDigit
    decide
  · revert slash
    decide
  · exact plain slash
  · revert slash
    decide

namespace FilesOf

variable {kept : List (Request × Json)} {files : List (List String × Entry)}

/-- There are as many files as exchanges. -/
theorem length (of : FilesOf kept files) : files.length = kept.length := by
  induction of with
  | none => rfl
  | more time plain _ ih => simp [ih]

/-- The names of the files are those of the numbers so far. -/
theorem name (of : FilesOf kept files) :
    ∀ e ∈ files, ∃ number purpose, number ≤ kept.length ∧ '/' ∉ purpose.toList ∧
      e.1 = [fileName number purpose] := by
  induction of with
  | none => nofun
  | @more kept files time exchange plain _ ih =>
    intro e mem
    rw [List.length_append, List.length_singleton]
    obtain rfl | mem := List.mem_cons.mp mem
    · exact ⟨_, _, le_rfl, plain, rfl⟩
    · obtain ⟨number, purpose, le, rest⟩ := ih e mem
      exact ⟨number, purpose, le.trans (Nat.le_succ _), rest⟩

/-- The name of the next file is new. -/
theorem new (of : FilesOf kept files) (purpose : String) :
    ∀ e ∈ files, e.1 ≠ [fileName (kept.length + 1) purpose] := by
  intro e mem same
  obtain ⟨number, other, le, -, named⟩ := of.name e mem
  have numbers := number_of_fileName (List.singleton_inj.mp (named.symm.trans same))
  omega

/-- Every exchange has its file, of its number. -/
theorem mem (of : FilesOf kept files) :
    ∀ k (within : k < kept.length), ∃ time, fileOf (k + 1) time kept[k] ∈ files := by
  induction of with
  | none => nofun
  | @more kept files time exchange plain _ ih =>
    intro k within
    by_cases last : k < kept.length
    · obtain ⟨time', mem⟩ := ih k last
      refine ⟨time', List.mem_cons_of_mem _ ?_⟩
      rwa [List.getElem_append_left last]
    · obtain rfl : k = kept.length := by simp at within; omega
      refine ⟨time, ?_⟩
      rw [List.getElem_concat_length rfl]
      exact List.mem_cons_self

end FilesOf

/-! ## Keeping one exchange -/

/-- Exchanges are on the shelf: the directory is there, has their files and nothing else, and the
files can be read. -/
structure Shelved (directory : Path) (place : List String) (kept : List (Request × Json))
    (files : FileTree) : Prop where
  text : '\x00' ∉ directory.text.toList
  leads : files.walk directory.start directory.names = .ok place
  holds : FilesOf kept (files.below place)
  reads : ∀ name entry, ([name], entry) ∈ files.below place →
    files.read (directory.join name) = .ok entry

/-- Nothing in the log tells that an exchange could not be written. -/
def AllWritten (lines : List LogLine) : Prop :=
  ∀ line ∈ lines, ∀ rest, line ≠ .warning ("failed to write inference log " ++ rest)

/-- A warning about a file that was not written says that not all were. -/
theorem not_allWritten_trouble (file message : String) :
    ¬ AllWritten [.warning ("failed to write inference log " ++ file ++ ": " ++ message)] := by
  intro written
  refine written _ List.mem_cons_self (file ++ ": " ++ message) ?_
  simp only [String.append_assoc]

/-- Keeping an exchange without trouble makes the directory and writes the file. -/
theorem record_of_allWritten (log : InferenceLog) (files : FileTree)
    (purpose time : String) (request response : Json)
    (written : AllWritten (log.record files purpose time request response).2.2) :
    ∃ made files', files.makeDirectory log.directory = .ok made ∧
      made.write (log.directory.join (fileName log.next purpose))
        (bytes purpose time request response) = .ok files' ∧
      log.record files purpose time request response =
        ({ log with next := log.next + 1 }, files', []) := by
  unfold record at written ⊢
  cases makes : files.makeDirectory log.directory with
  | error trouble =>
    rw [makes] at written
    exact absurd written (not_allWritten_trouble _ _)
  | ok made =>
    rw [makes] at written
    dsimp only at written ⊢
    rw [bytes]
    cases writes : made.write (log.directory.join (fileName log.next purpose))
        (Text.encode (entry purpose time request response).printIndented.toList) with
    | error trouble =>
      rw [writes] at written
      exact absurd written (not_allWritten_trouble _ _)
    | ok files' => exact ⟨made, files', rfl, writes, rfl⟩

/-- A file that is written for the next exchange comes to the others. -/
theorem Shelved.record {directory : Path} {place : List String} {kept : List (Request × Json)}
    {files files' : FileTree} (shelved : Shelved directory place kept files)
    (exchange : Request × Json) (plain : '/' ∉ exchange.1.purpose.toList) {time : String}
    (written : files.write (directory.join (fileName (kept.length + 1) exchange.1.purpose))
      (bytes exchange.1.purpose time exchange.1.body exchange.2) = .ok files') :
    Shelved directory place (kept ++ [exchange]) files' := by
  have slash := slash_not_mem_fileName plain (kept.length + 1)
  have new := shelved.holds.new exchange.1.purpose
  have below := FileTree.below_of_store slash shelved.leads new written
  refine ⟨shelved.text, FileTree.walk_of_directoriesStay (FileTree.write_grows written).directories
    shelved.leads, ?_, fun name entry mem => ?_⟩
  · rw [below]
    exact .more time plain shelved.holds
  · have read := fun {other : String} (plain : '/' ∉ other.toList) =>
      FileTree.read_join_of_store slash plain Entry.file_ne_directory written
    rw [below] at mem
    obtain same | mem := List.mem_cons.mp mem
    · obtain ⟨⟨⟩, rfl⟩ := Prod.mk.inj same
      rw [read slash, if_pos rfl]
    · obtain ⟨number, purpose, -, plain', named⟩ := shelved.holds.name _ mem
      have named : name = fileName number purpose := List.singleton_inj.mp named
      have other : name ≠ fileName (kept.length + 1) exchange.1.purpose :=
        fun same => new _ mem (congrArg (fun n => [n]) same)
      rw [read (named ▸ slash_not_mem_fileName plain' number), if_neg other]
      exact shelved.reads name entry mem

end InferenceLog

namespace Client

open InferenceLog

/-! ## What a client asks -/

/-- A tenth is read back from its text. -/
theorem exactNumber_tenth : Json.ExactNumber (.float 0.1) := by
  have scaled : Json.scale? 1 (-1) = some 0.1 := by
    simp only [Json.scale?]
    rw [if_pos (by decide), Json.divideByTens, if_pos (by decide)]
    decide +kernel
  have written : Json.numberText (.float 0.1) = '0' :: '.' :: ['1'] := by decide +kernel
  have digit : ∀ c ∈ ['1'], c.isDigit = true := List.forall_mem_singleton.mpr rfl
  exact Json.exactNumber_of_fraction (List.cons_ne_nil _ _) digit written scaled

/-- A message does not nest deeper than its text allows to be read. -/
theorem readable_message (depth : Nat) (m : Message) : m.toJson.Readable (depth + 1) := by
  have names : ["content", "role"].Pairwise (· < ·) := by decide
  refine .object ((List.pairwise_map (f := Prod.fst)).mp names) ?_
  simp only [List.forall_mem_cons, List.not_mem_nil, false_implies, implies_true, and_true]
  exact ⟨.scalar rfl, .scalar rfl⟩

/-- A message has no numbers. -/
theorem exact_message (m : Message) : m.toJson.Exact := by
  refine .object ?_
  simp only [List.forall_mem_cons, List.not_mem_nil, false_implies, implies_true, and_true]
  exact ⟨.string _, .string _⟩

/-- What a client asks can be read back from the file of the exchange. -/
theorem keepable_requestBody (client : Client) (messages : List Message) :
    Keepable (client.requestBody messages) where
  readable := by
    show Json.Readable (125 + 1) (.ofFields _)
    refine .object (Json.ascending_sortFields _) fun f mem => ?_
    have mem := Json.mem_of_mem_sortFields mem
    simp only [List.mem_cons, List.not_mem_nil, or_false] at mem
    rcases mem with rfl | rfl | rfl | rfl
    · exact .scalar rfl
    · show Json.Readable (124 + 1) (.array _)
      exact .array (List.forall_mem_map.mpr fun m _ => readable_message 123 m)
    · exact .scalar rfl
    · show Json.Readable (124 + 1) (.object _)
      exact .object (List.pairwise_singleton _ _) (List.forall_mem_singleton.mpr (.scalar rfl))
  exact := by
    refine .object fun f mem => ?_
    have mem := Json.mem_of_mem_sortFields mem
    simp only [List.mem_cons, List.not_mem_nil, or_false] at mem
    rcases mem with rfl | rfl | rfl | rfl
    · exact .string _
    · exact .array (List.forall_mem_map.mpr fun m _ => exact_message m)
    · exact .number exactNumber_tenth
    · exact .object (List.forall_mem_singleton.mpr (.string _))

/-! ## Keeping the exchanges of a run -/

variable (client : Client)

/-- What an exchange with a server comes to: no reply, a reply that is no document, or a document,
which is recorded. -/
inductive Completes (request : Request) (s : RunState) : RunState → Prop where
  | unanswered : Completes request s s
  | unread (absent : (client.server (s.requests ++ [request])).document? = none) :
    Completes request s { s with requests := s.requests ++ [request] }
  | read {reply : Json} (found : (client.server (s.requests ++ [request])).document? = some reply) :
    Completes request s
      (left (client.record request reply { s with requests := s.requests ++ [request] }))

/-- Completing sends one request and keeps its exchange. -/
theorem complete_completes (purpose : String) (messages : List Message) (s : RunState) :
    client.Completes (client.request purpose messages) s
      (left (client.complete purpose messages s)) := by
  unfold complete
  obtain ⟨e, sends⟩ | ⟨absent, e, sends⟩ | ⟨status, reply, found, sends⟩ :=
    client.send_cases (client.request purpose messages) s
  · rw [bind_of_error sends]
    exact .unanswered
  · rw [bind_of_error sends]
    exact .unread absent
  · rw [bind_of_ok sends]
    -- Whatever is made of the reply, it has been recorded before.
    refine left_bind (P := client.Completes _ s) (.read found) fun _ t recorded => ?_
    cases answerOf status reply <;> exact recorded

/-- The log of a run holds the exchanges of its requests; its directory may still have to be made if
there are none. What was asked can be read back from there. -/
structure Accounted (directory : Path) (place : List String) (s : RunState) : Prop where
  keepable : ∀ request ∈ s.requests, Keepable request.body
  numbered : s.inference =
    some ⟨directory, (client.server.exchanges [] s.requests).length + 1⟩
  shelved : ∃ made, s.files.makeDirectory directory = .ok made ∧
    Shelved directory place (client.server.exchanges [] s.requests) made ∧
    (client.server.exchanges [] s.requests ≠ [] → s.files = made)

/-- The log goes on to hold the exchanges, if they can be written. -/
structure Accounts (directory : Path) (place : List String) (s t : RunState) : Prop where
  log : s.log <+: t.log
  kept : AllWritten t.log → client.Accounted directory place s → client.Accounted directory place t

variable {client} {directory : Path} {place : List String} {s t : RunState}

/-- The account of a run is put together from those of its parts. -/
theorem accounts_course : Course (client.Accounts directory place) where
  refl s := ⟨List.prefix_rfl, fun _ accounted => accounted⟩
  trans h h' := by
    refine ⟨h.log.trans h'.log, fun written accounted => h'.kept written (h.kept ?_ accounted)⟩
    exact fun line mem => written line (h'.log.subset mem)

/-- What sends no request and keeps requests, counter and files changes no account. -/
theorem accounts_of_same (requests : t.requests = s.requests)
    (inference : t.inference = s.inference)
    (files : t.files = s.files) (log : s.log <+: t.log) : client.Accounts directory place s t where
  log := log
  kept _ accounted := by
    obtain ⟨keepable, numbered, shelved⟩ := accounted
    rw [← requests] at keepable
    rw [← requests, ← inference] at numbered
    rw [← requests, ← files] at shelved
    exact ⟨keepable, numbered, shelved⟩

/-- One more request can be read back, too. -/
theorem Accounted.keepable_concat (accounted : client.Accounted directory place s)
    {request : Request} (keepable : Keepable request.body) :
    ∀ r ∈ s.requests ++ [request], Keepable r.body :=
  List.forall_mem_append.mpr ⟨accounted.keepable, List.forall_mem_singleton.mpr keepable⟩

/-- A document that came back is recorded under the next number. -/
theorem accounts_record {request : Request} (plain : '/' ∉ request.purpose.toList)
    (keepable : Keepable request.body) {reply : Json}
    (found : (client.server (s.requests ++ [request])).document? = some reply) :
    client.Accounts directory place s
      (left (client.record request reply { s with requests := s.requests ++ [request] })) := by
  have exchanges : client.server.exchanges [] (s.requests ++ [request]) =
      client.server.exchanges [] s.requests ++ [(request, reply)] := by
    rw [Server.exchanges_concat, List.nil_append, found]
    rfl
  refine ⟨?_, fun written accounted => ?_⟩
  · unfold record
    split
    · exact List.prefix_rfl
    · exact List.prefix_append _ _
  · have keepables := accounted.keepable_concat keepable
    obtain ⟨-, numbered, made, makes, shelved, -⟩ := accounted
    simp only [record, numbered] at written ⊢
    obtain ⟨made', files, makes', writes, recorded⟩ := record_of_allWritten _ s.files
      request.purpose (client.timestamp s.now) request.body reply
      fun line mem => written line (List.mem_append_right _ mem)
    cases makes.symm.trans makes'
    rw [recorded]
    have shelved' := shelved.record (request, reply) plain writes
    refine ⟨keepables, ?_, files,
      FileTree.makeDirectory_of_walk shelved'.text shelved'.leads, ?_, fun _ => rfl⟩
    · simp only [left, exchanges, List.length_append, List.length_singleton]
    · simpa only [left, exchanges] using shelved'

/-- Completing keeps the account. -/
theorem accounts_complete {purpose : String} (plain : '/' ∉ purpose.toList)
    (messages : List Message) :
    Leads (client.Accounts directory place) (client.complete purpose messages) := by
  intro s
  have keepable : Keepable (client.request purpose messages).body :=
    client.keepable_requestBody messages
  have completes := client.complete_completes purpose messages s
  generalize left (client.complete purpose messages s) = t at completes
  cases completes with
  | unanswered => exact accounts_course.refl s
  | unread absent =>
    refine ⟨List.prefix_rfl, fun _ accounted => ?_⟩
    have exchanges : client.server.exchanges [] (s.requests ++ [client.request purpose messages]) =
        client.server.exchanges [] s.requests := by
      rw [Server.exchanges_concat, List.nil_append, absent]
      exact List.append_nil _
    have keepables := accounted.keepable_concat keepable
    obtain ⟨-, numbered, shelved⟩ := accounted
    rw [← exchanges] at numbered shelved
    exact ⟨keepables, numbered, shelved⟩
  | read found => exact accounts_record plain keepable found

/-- The exchanges of a client keep the account. -/
theorem accounts_exchanges : client.Exchanges (client.Accounts directory place) where
  toCourse := accounts_course
  called _ _ _ := accounts_of_same rfl rfl rfl List.prefix_rfl
  acts := accounts_complete (by decide)
  extracts := accounts_complete (by decide)

/-- A run with the model as its assistant keeps the account. -/
theorem accounts_running {scene : Scene} (model : scene.assistant = client.assistant scene.page) :
    Running scene (client.Accounts directory place) where
  toCalling := accounts_exchanges.toCalling
  instructed := model ▸ accounts_exchanges.assistant scene.page
  noted _ _ := accounts_of_same rfl rfl rfl (List.prefix_append _ _)
  waited _ _ := accounts_of_same rfl rfl rfl List.prefix_rfl
  registered _ _ := accounts_of_same rfl rfl rfl List.prefix_rfl
  evaluated _ _ := accounts_of_same rfl rfl rfl List.prefix_rfl
  extracted _ _ := accounts_of_same rfl rfl rfl List.prefix_rfl
  told done total s := by
    unfold Run.send
    dsimp only
    split <;> exact accounts_of_same rfl rfl rfl List.prefix_rfl

/-- What a client may be used for: instructions in any number and order, and runs of steps with it
as the assistant, each of which may fail. -/
inductive Serves (client : Client) : RunState → RunState → Prop where
  | nothing (s : RunState) : Serves client s s
  | act {s t : RunState} (page : Page) (vars : Variables) (instruction : String) (timeout : Nat) :
    Serves client s t → Serves client s (left (client.act page vars instruction timeout t))
  | extract {s t : RunState} (page : Page) (instruction : String) (timeout : Nat) :
    Serves client s t → Serves client s (left (client.extract page instruction timeout t))
  | steps {s t : RunState} {scene : Scene} (model : scene.assistant = client.assistant scene.page)
      (all : List Step) : Serves client s t → Serves client s (left (Run.steps scene all t))

/-- What a run with the model leaves is accounted for. -/
theorem Serves.accounts (serves : client.Serves s t) : client.Accounts directory place s t := by
  have course : Course (client.Accounts directory place) := accounts_course
  induction serves with
  | nothing => exact course.refl _
  | act page vars instruction timeout _ ih =>
    exact course.trans ih ((accounts_exchanges.assistant page).act vars instruction timeout _)
  | extract page instruction timeout _ ih =>
    exact course.trans ih ((accounts_exchanges.assistant page).extract instruction timeout _)
  | steps model all _ ih => exact course.trans ih ((accounts_running model).steps all _)

end Client

end Model

open Model Model.InferenceLog

/-- The log of a client that begins with an empty directory holds, at the end of whatever the client
was used for, one file for each request that was answered with a document and nothing else, if
writing them worked. The files are numbered in the order of the requests, and hold what each request
was for, what was asked and what was answered: as a text of the object of these, which is read back
from it if the answer can be read back at all. These are all requests that a reply came back to if
every reply is a document. -/
theorem exchanges_kept {client : Client} {s t : RunState} (serves : client.Serves s t)
    {directory : Path} {place : List String} {made : FileTree} (new : s.requests = [])
    (logs : s.inference = some (.ofDirectory directory))
    (makes : s.files.makeDirectory directory = .ok made)
    (leads : made.walk directory.start directory.names = .ok place)
    (empty : made.below place = []) (written : AllWritten t.log) :
    let kept := client.server.exchanges [] t.requests
    (t.files.below place).length = kept.length ∧
      (∀ k (within : k < kept.length), ∃ time content,
        ([fileName (k + 1) kept[k].1.purpose], .file content) ∈ t.files.below place ∧
        t.files.read (directory.join (fileName (k + 1) kept[k].1.purpose)) = .ok (.file content) ∧
        Holds content kept[k].1.purpose time kept[k].1.body kept[k].2 ∧
        Keepable kept[k].1.body) ∧
      ((∀ sofar, sofar <+: t.requests → sofar ≠ [] →
          (client.server sofar).document?.isSome = true) →
        kept.map (·.1) = t.requests) := by
  intro kept
  have none : client.server.exchanges [] s.requests = [] := by rw [new, Server.exchanges]
  have begun : client.Accounted directory place s := by
    refine ⟨by rw [new]; exact List.forall_mem_nil _, by rw [logs, none]; rfl, made, makes, ?_,
      fun some => absurd none some⟩
    rw [none]
    refine ⟨FileTree.text_of_makeDirectory makes, leads, ?_, ?_⟩
    · rw [empty]
      exact .none
    · rw [empty]
      nofun
  obtain ⟨keepable, -, made', makes', shelved, same⟩ := serves.accounts.kept written begun
  refine ⟨?_, fun k within => ?_, Server.exchanges_of_documents client.server t.requests []⟩
  · by_cases some : kept = []
    · have length : (made'.below place).length = 0 := by
        rw [shelved.holds.length]
        exact congrArg List.length some
      have le := (FileTree.below_suffix_of_makeDirectory makes' place).length_le
      rw [some, List.length_nil]
      omega
    · rw [same some]
      exact shelved.holds.length
  · have some : kept ≠ [] := List.ne_nil_of_length_pos (Nat.zero_lt_of_lt within)
    obtain ⟨time, mem⟩ := shelved.holds.mem k within
    rw [same some]
    exact ⟨time, _, mem, shelved.reads _ _ mem, holds_bytes _ _ _ _,
      keepable _ (Server.of_mem_exchanges (List.getElem_mem within)).1⟩

/-- A run that is about to begin, in whose root the exchanges are kept. -/
def keeping : RunState :=
  { RunState.initial ⟨true, .reliable⟩ with inference := some (.ofDirectory ⟨[], "/log"⟩) }

/-- Of three requests the second one is not answered with a document; the third is kept under the
number two, with its answer. -/
theorem exchanges_kept_second :
    let client := Client.ofServer fun sofar =>
      .answered 200 (Text.encode (if sofar.length = 2 then "busy" else "[]").toList)
    let vars : Variables := ⟨[]⟩
    let first := left (client.act silentPage vars "go" 5 keeping)
    let second := left (client.act silentPage vars "on" 5 first)
    let third := left (client.extract silentPage "the title" 5 second)
    third.requests.length = 3 ∧ (third.files.below ["log"]).length = 2 ∧
      ∃ content v, third.files.read ⟨[], "/log/002-extract.json"⟩ = .ok (.file content) ∧
        Json.parseBytes content = .ok v ∧ v.field? "kind" = some (.string "extract") ∧
        v.field? "response" = some (.array []) := by
  intro client vars first second third
  have serves : client.Serves keeping third :=
    .extract _ _ _ (.act _ _ _ _ (.act _ _ _ _ (.nothing keeping)))
  let made : FileTree := ⟨[(["log"], .directory)]⟩
  have makes : keeping.files.makeDirectory ⟨[], "/log"⟩ = .ok made := by decide +kernel
  have leads : made.walk (Path.mk [] "/log").start (Path.mk [] "/log").names = .ok ["log"] := by
    decide +kernel
  have written : AllWritten third.log := by
    have log : third.log = [] := by decide +kernel
    rw [log]
    exact List.forall_mem_nil _
  obtain ⟨count, each, -⟩ := exchanges_kept serves rfl rfl makes leads rfl written
  have purposes : (client.server.exchanges [] third.requests).map (·.1.purpose) =
      ["act", "extract"] := by decide +kernel
  have length : (client.server.exchanges [] third.requests).length = 2 := by
    rw [← List.length_map (f := (·.1.purpose)), purposes]
    rfl
  have within : 1 < (client.server.exchanges [] third.requests).length := by omega
  have purpose : (client.server.exchanges [] third.requests)[1].1.purpose = "extract" := by
    have second : ["act", "extract"][1]? = some "extract" := rfl
    rw [← purposes, List.getElem?_map, List.getElem?_eq_getElem within] at second
    exact Option.some.inj second
  obtain ⟨time, content, -, read, holds, keepable⟩ := each 1 within
  have response : (client.server.exchanges [] third.requests)[1].2 = .array [] := by
    obtain ⟨-, sofar, answered⟩ := Server.of_mem_exchanges (List.getElem_mem within)
    have busy : (Reply.answered 200 (Text.encode "busy".toList)).document?.isNone = true := by
      decide +kernel
    have empty : (Reply.answered 200 (Text.encode "[]".toList)).document? = some (.array []) := by
      rw [Reply.document?, Json.parseBytes, Text.symbols_encode]
      rfl
    simp only [client, Client.ofServer] at answered
    split at answered
    · rw [answered] at busy
      cases busy
    · exact (Option.some.inj (empty.symm.trans answered)).symm
  rw [purpose, response] at holds
  obtain ⟨v, parsed, kind, -, answer, -⟩ := holds.reread keepable keepable_noItems
  have file : (Path.mk [] "/log").join (fileName 2 "extract") = ⟨[], "/log/002-extract.json"⟩ := by
    decide +kernel
  rw [purpose, file] at read
  exact ⟨by decide +kernel, count.trans length, content, v, read, parsed, kind, answer⟩

/-- A reply that is no document leaves no trace in the log. -/
theorem reply_not_kept :
    let client := Client.ofServer fun _ => .answered 502 (Text.encode "bad gateway".toList)
    let ended := left (client.extract silentPage "the title" 5 keeping)
    keeping.files.makeDirectory ⟨[], "/log"⟩ = .ok ⟨[(["log"], .directory)]⟩ ∧
      ended.requests.length = 1 ∧ ended.log = [] ∧ ended.files.below ["log"] = [] := by
  decide +kernel

end PageScript
