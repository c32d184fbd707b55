import NetReconcile.MemoryHost
import NetReconcile.Proofs.HostM

/-!
# Resolver files, line by line

What a resolver file names is put together from what its lines name, each by itself, so texts can be
joined at a line end and lines that name nothing can stand anywhere. Lines end as on any host, in a
line feed or in a carriage return and a line feed, and the last one may have no end. The reader
takes a text apart at line feeds only, which comes to the same: a carriage return is a blank, and
what follows the last line feed names nothing if it is empty.

The check of nameservers sees nothing else of the file. It passes where each expected nameserver is
named by some line, and its error is about those that no line names.

## Main definitions

* `Text.lines`: the lines of a text.
* `LineNames`, `FileNames`: a line, or a file, names a nameserver.
* `Inserted`: a text has the lines of another one, and one more.
* `ChecksContents`: what the check of nameservers comes to.

## Main statements

* `parseNameservers_eq`: the reader sees the lines of a file.
* `parsed_line_by_line`: files are read line by line, and checked by what their lines name.

`LineNames` and `FileNames` say what is named without the reader, by words of a line. Statements
about files are made with these, and the reader comes in by `mem_parseNameservers_iff` only.
-/

namespace NetReconcile

/-! ### Lines -/

namespace Text

/-- A line without the carriage return that it may end in. -/
def dropReturn (line : List Char) : List Char :=
  if line.getLast? = some '\r' then line.dropLast else line

/-- Lines, from the stretches between line feeds. What follows the last line feed has no end that
could be dropped, and is a line only if it is not empty. -/
def linesOf : List (List Char) → List (List Char)
  | [] => []
  | [last] => if last = [] then [] else [last]
  | line :: next :: rest => dropReturn line :: linesOf (next :: rest)

/-- The lines of a text, without their ends. -/
def lines (text : String) : List (List Char) :=
  linesOf (text.toList.splitOn '\n')

/-- Lines of a text that is put together are lines of its parts. -/
theorem linesOf_append (parts : List (List Char)) {rest : List (List Char)} (hrest : rest ≠ []) :
    linesOf (parts ++ rest) = parts.map dropReturn ++ linesOf rest := by
  induction parts with
  | nil => rfl
  | cons line parts ih =>
    obtain ⟨next, more, hmore⟩ := List.exists_cons_of_ne_nil
      (List.append_ne_nil_of_right_ne_nil parts hrest)
    rw [List.cons_append, hmore, linesOf, ← hmore, ih, List.map_cons, List.cons_append]

/-- The lines of texts that are joined at a line end. -/
theorem lines_append (a b : String) :
    lines (a ++ "\n" ++ b) = (a.toList.splitOn '\n').map dropReturn ++ lines b := by
  have htext : (a ++ "\n" ++ b).toList = a.toList ++ '\n' :: b.toList := by simp
  rw [lines, htext, List.splitOn_append_cons_self, linesOf_append _ (List.splitOn_ne_nil _ _),
    lines]

/-- Fields do not reach over a blank. -/
theorem fields_append_cons {blank : Char} (hblank : isBlank blank = true) (cs rest : List Char) :
    fields (cs ++ blank :: rest) = fields cs ++ fields rest := by
  rw [fields, List.splitOnP_append_cons cs rest hblank, List.filter_append]
  rfl

/-- A carriage return at the end of a line is in no field. -/
theorem fields_dropReturn (line : List Char) : fields (dropReturn line) = fields line := by
  unfold dropReturn
  split
  · rename_i hlast
    obtain ⟨cs, rfl⟩ := List.getLast?_eq_some_iff.1 hlast
    rw [List.dropLast_concat, fields_append_cons (by decide)]
    exact (List.append_nil _).symm
  · rfl

/-- What lines say one by one is what the stretches between line feeds say, if an empty line says
nothing and a carriage return at the end has no part in it. -/
theorem filterMap_linesOf {α : Type} {f : List Char → Option α} (hempty : f [] = none)
    (hreturn : ∀ line, f (dropReturn line) = f line) (parts : List (List Char)) :
    (linesOf parts).filterMap f = parts.filterMap f := by
  induction parts with
  | nil => rfl
  | cons line rest ih =>
    cases rest with
    | nil =>
      unfold linesOf
      split
      · rename_i hline
        rw [hline, List.filterMap_cons_none hempty]
      · rfl
    | cons next rest => rw [linesOf, List.filterMap_cons, List.filterMap_cons, hreturn, ih]

end Text

open Text

/-! ### What a line names -/

/-- A line names a nameserver: its first field is the keyword, and its second field is the
address. -/
def LineNames (line : List Char) (server : IpAddress) : Prop :=
  (fields line)[0]? = some "nameserver".toList ∧
    (fields line)[1]?.bind IpAddress.ofChars? = some server

/-- The first field of a line is not the keyword, or its second field is no address. Either field
may be missing. -/
def NamesNothing (line : List Char) : Prop :=
  (fields line)[0]? ≠ some "nameserver".toList ∨
    (fields line)[1]?.bind IpAddress.ofChars? = none

/-- A line is read by its first two fields. -/
theorem nameserverOfLine?_eq (line : List Char) :
    nameserverOfLine? line = if (fields line)[0]? = some "nameserver".toList
      then (fields line)[1]?.bind IpAddress.ofChars? else none := by
  unfold nameserverOfLine?
  generalize "nameserver".toList = word
  match fields line with
  | [] => rfl
  | [keyword] =>
    dsimp only
    split
    · rfl
    · rfl
  | keyword :: address :: rest => simp

/-- What the reader takes from a line is what the line names. -/
theorem nameserverOfLine?_eq_some_iff {line : List Char} {server : IpAddress} :
    nameserverOfLine? line = some server ↔ LineNames line server := by
  rw [nameserverOfLine?_eq, LineNames]
  split
  · rename_i hkeyword
    exact (and_iff_right hkeyword).symm
  · rename_i hkeyword
    exact ⟨nofun, fun h ↦ absurd h.1 hkeyword⟩

theorem nameserverOfLine?_eq_none {line : List Char} (h : NamesNothing line) :
    nameserverOfLine? line = none := by
  rw [nameserverOfLine?_eq]
  rcases h with hkeyword | haddress
  · rw [if_neg hkeyword]
  · rw [haddress, ite_self]

/-- A carriage return at the end of a line is a blank, and makes no difference. -/
theorem nameserverOfLine?_dropReturn (line : List Char) :
    nameserverOfLine? (dropReturn line) = nameserverOfLine? line := by
  rw [nameserverOfLine?_eq, nameserverOfLine?_eq, fields_dropReturn]

/-! ### What a file names -/

/-- Some line of a file names a nameserver. -/
def FileNames (contents : String) (server : IpAddress) : Prop :=
  ∃ line ∈ lines contents, LineNames line server

/-- The reader sees the lines of a file. -/
theorem parseNameservers_eq (contents : String) :
    parseNameservers contents = (lines contents).filterMap nameserverOfLine? :=
  (filterMap_linesOf rfl nameserverOfLine?_dropReturn _).symm

/-- The reader finds what some line names. -/
theorem mem_parseNameservers_iff {contents : String} {server : IpAddress} :
    server ∈ parseNameservers contents ↔ FileNames contents server := by
  simp only [parseNameservers_eq, List.mem_filterMap, nameserverOfLine?_eq_some_iff, FileNames]

instance (contents : String) : DecidablePred (FileNames contents) :=
  fun _ ↦ decidable_of_iff _ mem_parseNameservers_iff

/-- Texts that are joined at a line end name what each of them names. -/
theorem parseNameservers_append (a b : String) :
    parseNameservers (a ++ "\n" ++ b) = parseNameservers a ++ parseNameservers b := by
  have htext : (a ++ "\n" ++ b).toList = a.toList ++ '\n' :: b.toList := by simp
  rw [parseNameservers, htext, List.splitOn_append_cons_self, List.filterMap_append]
  rfl

/-- A text has the lines of another one, and one line more. -/
def Inserted (line : List Char) (contents contents' : String) : Prop :=
  ∃ before after, lines contents = before ++ after ∧ lines contents' = before ++ line :: after

/-- What is put between two line ends is a line more. -/
theorem inserted_between (a b : String) {line : String} (hline : '\n' ∉ line.toList) :
    Inserted (dropReturn line.toList) (a ++ "\n" ++ b) (a ++ "\n" ++ (line ++ "\n" ++ b)) := by
  refine ⟨(a.toList.splitOn '\n').map dropReturn, lines b, lines_append a b, ?_⟩
  rw [lines_append, lines_append, List.splitOn_eq_singleton hline]
  rfl

/-- A line that names nothing can be put anywhere. -/
theorem parseNameservers_of_inserted {line : List Char} {contents contents' : String}
    (hline : NamesNothing line) (h : Inserted line contents contents') :
    parseNameservers contents' = parseNameservers contents := by
  obtain ⟨before, after, hcontents, hcontents'⟩ := h
  rw [parseNameservers_eq, parseNameservers_eq, hcontents, hcontents', List.filterMap_append,
    List.filterMap_append, List.filterMap_cons_none (nameserverOfLine?_eq_none hline)]

/-! ### The check -/

/-- The expected nameservers that no line of a file names, in the order in which they are
expected. -/
def unnamedServers (expected : List IpAddress) (contents : String) : List IpAddress :=
  expected.filter (¬FileNames contents ·)

theorem missingNameservers_eq (expected : List IpAddress) (contents : String) :
    missingNameservers expected contents = unnamedServers expected contents := by
  refine List.filter_congr fun server _ ↦ ?_
  rw [decide_eq_decide, mem_parseNameservers_iff]

/-- No expected nameserver is unnamed exactly if lines name all of them. -/
theorem unnamed_eq_nil_iff {expected : List IpAddress} {contents : String} :
    unnamedServers expected contents = [] ↔ ∀ server ∈ expected, FileNames contents server := by
  simp [unnamedServers, List.filter_eq_nil_iff]

section

variable {σ : Type} [Host σ] {resolvConf : FilePath} {expected : List IpAddress}
  {contents : String} {s s' : σ}

/-- What the check of nameservers comes to where it reads some contents. -/
structure ChecksContents (resolvConf : FilePath) (expected : List IpAddress) (contents : String)
    (s s' : σ) : Prop where
  ok_iff : checkNameservers resolvConf expected s = .ok () s' ↔
    ∀ server ∈ expected, FileNames contents server
  /-- The error is about the expected nameservers that no line names. -/
  error_of_unnamed : (¬∀ server ∈ expected, FileNames contents server) →
    checkNameservers resolvConf expected s =
      .error (.missingNameservers (unnamedServers expected contents) resolvConf) s'
  message_eq :
    (HostError.missingNameservers (unnamedServers expected contents) resolvConf).message =
    "nameservers " ++ ", ".intercalate ((unnamedServers expected contents).map (·.text)) ++
      (" not found in " ++ resolvConf.text)

/-- The check fails about those that are unnamed, and about no others. -/
theorem checkNameservers_of_read (hne : expected ≠ [])
    (hread : (FileStore.read resolvConf : HostM σ (Option String)) s = .ok (some contents) s') :
    checkNameservers resolvConf expected s = match unnamedServers expected contents with
      | [] => .ok () s'
      | missing => .error (.missingNameservers missing resolvConf) s' := by
  unfold checkNameservers
  rw [if_neg (by simpa using hne)]
  refine (bind_of_ok (within_of_ok hread)).trans ?_
  dsimp only
  rw [missingNameservers_eq]
  cases unnamedServers expected contents with
  | nil => rfl
  | cons server missing => rfl

theorem checksContents_of_read (hne : expected ≠ [])
    (hread : (FileStore.read resolvConf : HostM σ (Option String)) s = .ok (some contents) s') :
    ChecksContents resolvConf expected contents s s' := by
  have hcheck := checkNameservers_of_read hne hread
  constructor
  · rw [← unnamed_eq_nil_iff, hcheck]
    cases unnamedServers expected contents with
    | nil => exact iff_of_true rfl rfl
    | cons server missing => exact iff_of_false nofun nofun
  · rw [← unnamed_eq_nil_iff, hcheck]
    cases unnamedServers expected contents with
    | nil => exact fun hnot ↦ absurd rfl hnot
    | cons server missing => exact fun _ ↦ rfl
  · have hend : s!" not found in {resolvConf.text}" = " not found in " ++ resolvConf.text := by
      simp only [toString]
    rw [← hend]
    rfl

end

/-- Resolver files are read line by line: what two texts name that are joined at a line end is what
each of them names, and a line that names nothing can be put anywhere. So the check of nameservers
passes if each expected nameserver is named by some line, and fails with those that are not. -/
theorem parsed_line_by_line :
    (∀ a b, parseNameservers (a ++ "\n" ++ b) = parseNameservers a ++ parseNameservers b) ∧
    (∀ line contents contents', NamesNothing line → Inserted line contents contents' →
      parseNameservers contents' = parseNameservers contents) ∧
    ∀ (σ : Type) [Host σ] (resolvConf : FilePath) (expected : List IpAddress) (contents : String)
      (s s' : σ), expected ≠ [] →
      (FileStore.read resolvConf : HostM σ (Option String)) s = .ok (some contents) s' →
      ChecksContents resolvConf expected contents s s' :=
  ⟨parseNameservers_append, fun _ _ _ ↦ parseNameservers_of_inserted,
    fun _ _ _ _ _ _ _ ↦ checksContents_of_read⟩

/-- A resolver file with both kinds of line ends, and without one at its end. -/
def mixedText : String :=
  "search a\r\nnameserver 8.8.8.8\n;nameserver 9.9.9.9\r\noptions b"

/-- A host with that file. -/
def mixedEnds : MemoryHost where
  files := [(⟨"/r"⟩, mixedText)]

/-- The comment can be left out, and the nameserver in it is missing. -/
theorem parsed_line_by_line_mixedEnds :
    NamesNothing ";nameserver 9.9.9.9".toList ∧
      Inserted ";nameserver 9.9.9.9".toList "search a\r\nnameserver 8.8.8.8\noptions b" mixedText ∧
      parseNameservers mixedText =
        parseNameservers "search a\r\nnameserver 8.8.8.8\noptions b" ∧
      (FileStore.read ⟨"/r"⟩ : HostM MemoryHost (Option String)) mixedEnds =
        .ok (some mixedText) mixedEnds ∧
      checkNameservers ⟨"/r"⟩ [.v4 (.ofOctets 9 9 9 9), .v4 (.ofOctets 8 8 8 8)] mixedEnds =
        .error (.missingNameservers [.v4 (.ofOctets 9 9 9 9)] ⟨"/r"⟩) mixedEnds := by
  have hline : NamesNothing ";nameserver 9.9.9.9".toList := .inl (by decide +kernel)
  have hinserted : Inserted ";nameserver 9.9.9.9".toList
      "search a\r\nnameserver 8.8.8.8\noptions b" mixedText := by
    have hcomment : '\n' ∉ ";nameserver 9.9.9.9\r".toList := by decide +kernel
    have hdrop : dropReturn ";nameserver 9.9.9.9\r".toList = ";nameserver 9.9.9.9".toList := by
      decide +kernel
    rw [← hdrop]
    exact inserted_between "search a\r\nnameserver 8.8.8.8" "options b" hcomment
  have hread : (FileStore.read ⟨"/r"⟩ : HostM MemoryHost (Option String)) mixedEnds =
      .ok (some mixedText) mixedEnds := rfl
  have hchecks := parsed_line_by_line.2.2 MemoryHost ⟨"/r"⟩
    [.v4 (.ofOctets 9 9 9 9), .v4 (.ofOctets 8 8 8 8)] mixedText _ _ (by decide) hread
  have hunnamed : unnamedServers [.v4 (.ofOctets 9 9 9 9), .v4 (.ofOctets 8 8 8 8)] mixedText =
      [.v4 (.ofOctets 9 9 9 9)] := by
    decide +kernel
  refine ⟨hline, hinserted, parsed_line_by_line.2.1 _ _ _ hline hinserted, hread, ?_⟩
  rw [← hunnamed]
  exact hchecks.error_of_unnamed (by decide +kernel)

end NetReconcile
