import AspectForms.Command.Run
import AspectForms.Proofs.Expressions

/-!
The printed report of lint, read back.  Main statement: what is printed lists every issue that is shown once,
the worst first, with the right counts, exactly if an error does not decide the status; if one does, the
same list is printed twice.
-/

namespace AspectForms

namespace Lint

open Script

/-- The line above the issues of one severity. -/
def heading : Severity → String
  | .error => "❌ Errors (must fix):"
  | .warning => "⚠️  Warnings (should fix):"
  | .info => "ℹ️  Info (generation degrades):"

/-- The severity that a line announces. -/
def headed? (line : String) : Option Severity :=
  [Severity.error, .warning, .info].find? fun s => heading s == line

/-- What printed lines say about issues: under the nearest heading above, the line that
an issue starts with and the lines that go on with it. -/
def said (above : Option Severity) : List String → List (Option Severity × List String)
  | [] => []
  | line :: lines =>
    if opensWith "   [" line then
      (above, line :: lines.takeWhile (opensWith "      ")) :: said above lines
    else said ((headed? line).or above) lines

/-- The line above a report. -/
def title : String := "📋 Lint Results:"

/-- The lines that stand directly below the titles of reports. -/
def counted : List String → List String
  | [] => []
  | line :: lines => (if line = title then lines.take 1 else []) ++ counted lines

/-- The numbers of errors, warnings and infos as a line. -/
def countsLine (errors warnings infos : Nat) : String :=
  "   " ++ toString errors ++ " error(s), " ++ toString warnings ++ " warning(s), " ++
    toString infos ++ " info(s)"

def withSeverity (s : Severity) (issues : List Issue) : List Issue :=
  issues.filter (·.severity == s)

/-- An issue under the heading of its severity. -/
def entry (i : Issue) : Option Severity × List String := (some i.severity, issueLines i)

/-- The issues as they are to be said: the errors before the warnings before the infos,
those of one severity in order. -/
def entries (issues : List Issue) : List (Option Severity × List String) :=
  [Severity.error, .warning, .info].flatMap fun s => (withSeverity s issues).map entry

/-- The numbers to be told, if there is anything to number. -/
def told (issues : List Issue) : List String :=
  if issues.isEmpty then []
  else [countsLine (withSeverity .error issues).length (withSeverity .warning issues).length
    (withSeverity .info issues).length]

/-- Printed lines list issues once: each issue is said once, in groups, and the sizes of the
groups are told. -/
structure ListsOnce (issues : List Issue) (printed : List String) : Prop where
  once : (said none printed).Perm (issues.map entry)
  grouped : said none printed = entries issues
  counts : counted printed = told issues

section Reading

variable {above : Option Severity} {line : String} {rest : List String}

theorem said_of_opens (h : opensWith "   [" line = true) :
    said above (line :: rest) =
      (above, line :: rest.takeWhile (opensWith "      ")) :: said above rest := by
  rw [said, if_pos h]

theorem said_of_misses (h : Misses "   [" line) :
    said above (line :: rest) = said ((headed? line).or above) rest := by
  rw [said, if_neg (Bool.eq_false_iff.mp h)]

theorem headed?_heading (s : Severity) : headed? (heading s) = some s := by
  cases s <;> decide

/-- A line that starts neither an issue nor a group says nothing of its own. -/
theorem said_of_differs (h : Misses "   [" line) (hheading : ∀ s, Differs (heading s) line) :
    said above (line :: rest) = said above rest := by
  have hnone : headed? line = none := by
    rw [headed?, List.find?_eq_none]
    intro s _ heq
    refine (hheading s).append_ne "" "" ?_
    rw [eq_of_beq heq]
  rw [said_of_misses h, hnone, Option.none_or]

theorem said_blank : said above ("" :: rest) = said above rest := by
  rw [said_of_misses (.of_lists rfl), show headed? "" = none by decide, Option.none_or]

theorem said_indented (text : String) :
    said above (("      " ++ text) :: rest) = said above rest := by
  refine said_of_differs (Differs.append (.of_lists rfl) _).misses fun s => ?_
  cases s <;> exact Differs.append (.of_lists rfl) _

theorem said_title : said above (title :: rest) = said above rest := by
  refine said_of_differs (.of_lists rfl) fun s => ?_
  cases s <;> exact .of_lists rfl

/-- The line of numbers goes on with a digit where an issue has a bracket. -/
theorem misses_countsLine (errors warnings infos : Nat) :
    Misses "   [" (countsLine errors warnings infos) := by
  rw [Misses, ← Bool.not_eq_true, opensWith, List.isPrefixOf_iff_prefix]
  rintro ⟨after, hafter⟩
  have hissue : "   [".toList = "   ".toList ++ ['['] := by decide +kernel
  have hword : " error(s), ".toList = ' ' :: "error(s), ".toList := by decide +kernel
  simp only [countsLine, String.toList_append, List.append_assoc, hissue, hword] at hafter
  have hbracket : '[' :: after = (Nat.repr errors).toList ++ ' ' :: _ :=
    List.append_cancel_left hafter
  rw [Nat.toList_repr] at hbracket
  cases hdigits : Nat.toDigits 10 errors with
  | nil =>
      rw [hdigits] at hbracket
      exact absurd (List.cons.inj hbracket).1 (by decide)
  | cons d ds =>
      have hd : d.isDigit = true :=
        Nat.isDigit_of_mem_toDigits (by decide) (by decide) (hdigits ▸ List.mem_cons_self)
      rw [hdigits] at hbracket
      rw [← (List.cons.inj hbracket).1] at hd
      exact absurd hd (by decide)

theorem said_countsLine (errors warnings infos : Nat) :
    said above (countsLine errors warnings infos :: rest) = said above rest := by
  refine said_of_differs (misses_countsLine errors warnings infos) fun s => ?_
  unfold countsLine
  cases s <;>
    exact .append (.append (.append (.append (.append (.append (.of_lists rfl) _) _) _) _) _) _

theorem said_heading (s : Severity) : said above (heading s :: rest) = said (some s) rest := by
  have hmisses : Misses "   [" (heading s) := by cases s <;> exact .of_lists rfl
  rw [said_of_misses hmisses, headed?_heading, Option.some_or]

/-- The next line, if there is one, does not go on with an issue. -/
def Breaks (rest : List String) : Prop := ∀ l ∈ rest.head?, Misses "      " l

theorem takeWhile_of_breaks (h : Breaks rest) : rest.takeWhile (opensWith "      ") = [] := by
  cases rest with
  | nil => rfl
  | cons l ls => exact List.takeWhile_cons_of_neg (Bool.eq_false_iff.mp (h l rfl))

theorem issueLines_eq (i : Issue) :
    issueLines i = ("   [" ++ (i.finding.kind ++ ("] " ++ i.location))) ::
      ("      " ++ i.finding.message) ::
        (i.finding.suggestion?.map fun s => "      " ++ ("💡 Suggestion: " ++ s)).toList := by
  unfold issueLines
  rw [String.append_assoc, String.append_assoc]
  cases i.finding.suggestion? with
  | none => rfl
  | some s =>
      have hindent : "      💡 Suggestion: " ++ s = "      " ++ ("💡 Suggestion: " ++ s) := by
        rw [← String.append_assoc]
        rfl
      exact congrArg (fun line => _ :: _ :: [line]) hindent

theorem said_issueLines (i : Issue) (h : Breaks rest) :
    said above (issueLines i ++ rest) = (above, issueLines i) :: said above rest := by
  have hgoes (text : String) : opensWith "      " ("      " ++ text) = true :=
    opensWith_append _ _
  rw [issueLines_eq]
  cases i.finding.suggestion? with
  | none =>
      simp only [Option.map_none, Option.toList_none, List.cons_append, List.nil_append]
      rw [said_of_opens (opensWith_append _ _), said_indented,
        List.takeWhile_cons_of_pos (hgoes _), takeWhile_of_breaks h]
  | some s =>
      simp only [Option.map_some, Option.toList_some, List.cons_append, List.nil_append]
      rw [said_of_opens (opensWith_append _ _), said_indented, said_indented,
        List.takeWhile_cons_of_pos (hgoes _), List.takeWhile_cons_of_pos (hgoes _),
        takeWhile_of_breaks h]

theorem breaks_issues (issues : List Issue) (rest : List String) :
    Breaks (issues.flatMap issueLines ++ "" :: rest) := by
  intro l hl
  cases issues with
  | nil =>
      obtain rfl : "" = l := Option.some.inj hl
      exact .of_lists rfl
  | cons i is =>
      rw [List.flatMap_cons, issueLines_eq] at hl
      obtain rfl := Option.some.inj hl
      exact (Differs.append (.of_lists rfl) _).misses

theorem said_issues (issues : List Issue) :
    said above (issues.flatMap issueLines ++ "" :: rest) =
      issues.map (fun i => (above, issueLines i)) ++ said above rest := by
  induction issues with
  | nil => exact said_blank
  | cons i is ih =>
      rw [List.flatMap_cons, List.append_assoc, said_issueLines i (breaks_issues is rest), ih]
      rfl

/-- A group says its issues under its heading, and what comes after it is read under that
heading or the one above. -/
theorem exists_said_group (above : Option Severity) (s : Severity) (issues : List Issue)
    (rest : List String) :
    ∃ below, said above (group (heading s) (withSeverity s issues) ++ rest) =
      (withSeverity s issues).map entry ++ said below rest := by
  unfold group
  split
  · rename_i hempty
    rw [List.isEmpty_iff.mp hempty]
    exact ⟨above, rfl⟩
  · refine ⟨some s, ?_⟩
    have hentry : (withSeverity s issues).map entry =
        (withSeverity s issues).map fun i => (some s, issueLines i) := by
      refine List.map_congr_left fun i hi => ?_
      have hs : i.severity = s := eq_of_beq (List.mem_filter.mp hi).2
      rw [entry, hs]
    rw [hentry, List.append_assoc, List.append_assoc, List.singleton_append,
      List.singleton_append, said_heading, said_issues]

theorem lines_eq (issues : List Issue) :
    lines issues =
      if issues.isEmpty then ["✅ No lint issues found!"]
      else "" :: title :: countsLine (withSeverity .error issues).length
          (withSeverity .warning issues).length (withSeverity .info issues).length :: "" ::
        (group (heading .error) (withSeverity .error issues) ++
          (group (heading .warning) (withSeverity .warning issues) ++
            group (heading .info) (withSeverity .info issues))) := by
  unfold lines
  split
  · rfl
  · simp only [List.append_assoc]
    rfl

/-- A report says its issues, grouped, whatever is printed after it. -/
theorem exists_said_lines (above : Option Severity) (issues : List Issue)
    (rest : List String) :
    ∃ below, said above (lines issues ++ rest) = entries issues ++ said below rest := by
  rw [lines_eq]
  split
  · rename_i hempty
    refine ⟨above, ?_⟩
    rw [List.isEmpty_iff.mp hempty, List.singleton_append, said_of_misses (.of_lists rfl)]
    rfl
  · obtain ⟨error, herror⟩ := exists_said_group above .error issues
      (group (heading .warning) (withSeverity .warning issues) ++
        (group (heading .info) (withSeverity .info issues) ++ rest))
    obtain ⟨warning, hwarning⟩ := exists_said_group error .warning issues
      (group (heading .info) (withSeverity .info issues) ++ rest)
    obtain ⟨info, hinfo⟩ := exists_said_group warning .info issues rest
    refine ⟨info, ?_⟩
    simp only [List.cons_append, List.append_assoc]
    rw [said_blank, said_title, said_countsLine, said_blank, herror, hwarning, hinfo]
    simp [entries]

theorem counted_append {lines : List String} (h : title ∉ lines) :
    counted (lines ++ rest) = counted rest := by
  induction lines with
  | nil => rfl
  | cons line lines ih =>
      rw [List.mem_cons, not_or] at h
      rw [List.cons_append, counted, if_neg (Ne.symm h.1), List.nil_append, ih h.2]

theorem title_ne (h : Differs title line) : title ≠ line := by
  intro heq
  exact h.append_ne "" "" (by rw [← heq])

theorem title_not_mem_issueLines (i : Issue) : title ∉ issueLines i := by
  have hhead (text : String) : title ≠ "   [" ++ text :=
    title_ne (Differs.append (.of_lists rfl) text)
  have hnext (text : String) : title ≠ "      " ++ text :=
    title_ne (Differs.append (.of_lists rfl) text)
  rw [issueLines_eq]
  cases i.finding.suggestion? <;> simp [hhead, hnext]

theorem title_not_mem_group (s : Severity) (issues : List Issue) :
    title ∉ group (heading s) issues := by
  have hheading : title ≠ heading s := by cases s <;> exact title_ne (.of_lists rfl)
  have hblank : title ≠ "" := by decide +kernel
  unfold group
  split
  · exact List.not_mem_nil
  · simp [hheading, hblank, title_not_mem_issueLines]

theorem title_ne_countsLine (errors warnings infos : Nat) :
    title ≠ countsLine errors warnings infos := by
  unfold countsLine
  exact title_ne (.append (.append (.append (.append (.append (.append (.of_lists rfl) _) _) _) _) _) _)

/-- A report tells its numbers once, whatever is printed after it. -/
theorem counted_lines (issues : List Issue) (rest : List String) :
    counted (lines issues ++ rest) = told issues ++ counted rest := by
  have hblank : title ∉ [""] := by decide +kernel
  rw [lines_eq, told]
  split
  · rw [counted_append (by decide +kernel), List.nil_append]
  · have hgroups := fun s => title_not_mem_group s (withSeverity s issues)
    have hafter : title ∉ countsLine (withSeverity .error issues).length
        (withSeverity .warning issues).length (withSeverity .info issues).length :: "" ::
        (group (heading .error) (withSeverity .error issues) ++
          (group (heading .warning) (withSeverity .warning issues) ++
            group (heading .info) (withSeverity .info issues))) := by
      rw [List.mem_singleton] at hblank
      simp only [List.mem_cons, List.mem_append, hgroups, title_ne_countsLine, hblank, or_false,
        not_false_eq_true]
    rw [List.cons_append, ← List.singleton_append, counted_append hblank, List.cons_append,
      counted, if_pos rfl, counted_append hafter]
    rfl

end Reading

section Once

variable {issues : List Issue}

theorem perm_entries (issues : List Issue) : (entries issues).Perm (issues.map entry) := by
  have hgroups : ([Severity.error, .warning, .info].flatMap
      fun s => withSeverity s issues).Perm issues := by
    induction issues with
    | nil => exact .nil
    | cons i is ih =>
        have hcons (s : Severity) : withSeverity s (i :: is) =
            if i.severity == s then i :: withSeverity s is else withSeverity s is :=
          List.filter_cons
        simp only [List.flatMap_cons, List.flatMap_nil, List.append_nil, hcons] at ih ⊢
        cases i.severity with
        | error => exact ih.cons i
        | warning => exact List.perm_middle.trans (ih.cons i)
        | info =>
            refine .trans (.append_left _ List.perm_middle) ?_
            exact List.perm_middle.trans (ih.cons i)
  have hmap := hgroups.map entry
  rwa [List.map_flatMap] at hmap

theorem said_lines (issues : List Issue) : said none (lines issues) = entries issues := by
  obtain ⟨below, hsaid⟩ := exists_said_lines none issues []
  rwa [List.append_nil, said, List.append_nil] at hsaid

theorem said_lines_twice (issues : List Issue) :
    said none (lines issues ++ lines issues) = entries issues ++ entries issues := by
  obtain ⟨middle, hfirst⟩ := exists_said_lines none issues (lines issues)
  obtain ⟨below, hsecond⟩ := exists_said_lines middle issues []
  rw [List.append_nil, said, List.append_nil] at hsecond
  rw [hfirst, hsecond]

theorem listsOnce_lines (issues : List Issue) : ListsOnce issues (lines issues) where
  once := said_lines issues ▸ perm_entries issues
  grouped := said_lines issues
  counts := by
    have hcounted := counted_lines issues []
    rwa [List.append_nil, counted, List.append_nil] at hcounted

/-- Of two reports after each other every issue is said twice. -/
theorem not_listsOnce_twice (h : issues ≠ []) :
    ¬ListsOnce issues (lines issues ++ lines issues) := by
  intro honce
  have hlength := honce.once.length_eq
  have hone := (perm_entries issues).length_eq
  rw [said_lines_twice, List.length_append] at hlength
  have hpos := List.length_pos_iff.mpr h
  rw [List.length_map] at hlength hone
  omega

theorem hasErrors_retained (errorsOnly : Bool) (issues : List Issue) :
    hasErrors (retained errorsOnly issues) = hasErrors issues := by
  unfold retained
  split
  · simp [hasErrors]
  · rfl

end Once

end Lint

namespace Command

open Lint

/-- How lint ends on a model that can be loaded: an error decides the status if it is to,
and only then the issues are listed more than once, namely twice. -/
structure Reports (m : Model) (failOnError errorsOnly : Bool) (disk : Disk) (e : Ending) :
    Prop where
  unchanged : e.disk = disk
  quiet : e.complaints = []
  status : e.status = if failOnError && hasErrors m.lint then 1 else 0
  once_iff : ListsOnce (retained errorsOnly m.lint) e.printed ↔
    ¬(failOnError = true ∧ hasErrors m.lint = true)
  twice : failOnError = true → hasErrors m.lint = true → ∃ listing,
    ListsOnce (retained errorsOnly m.lint) listing ∧ e.printed = listing ++ listing

theorem lintLines_eq (failOnError errorsOnly : Bool) (issues : List Issue) :
    lintLines failOnError errorsOnly issues =
      if failOnError = true ∧ hasErrors issues = true then
        (lines (retained errorsOnly issues) ++ lines (retained errorsOnly issues), 1)
      else (lines (retained errorsOnly issues), 0) := by
  simp only [lintLines, hasErrors_retained, Bool.and_eq_true]

theorem run_lint {disk : Disk} {file : String} {m : Model}
    (h : Model.load disk file = .ok m) (s : Surroundings) (failOnError errorsOnly : Bool) :
    (Command.lint file failOnError errorsOnly).run s disk =
      { disk, printed := (lintLines failOnError errorsOnly m.lint).1,
        status := (lintLines failOnError errorsOnly m.lint).2 } := by
  unfold run
  dsimp only
  rw [h]

/-- Lint lists every issue that is to be shown once exactly if no error decides its
status. -/
theorem reports_lint {disk : Disk} {file : String} {m : Model}
    (h : Model.load disk file = .ok m) (s : Surroundings) (failOnError errorsOnly : Bool) :
    Reports m failOnError errorsOnly disk
      ((Command.lint file failOnError errorsOnly).run s disk) := by
  rw [run_lint h, lintLines_eq]
  by_cases hfails : failOnError = true ∧ hasErrors m.lint = true
  · rw [if_pos hfails]
    have hsome : retained errorsOnly m.lint ≠ [] := by
      intro hnil
      have herrors := hasErrors_retained errorsOnly m.lint
      rw [hnil, hfails.2] at herrors
      cases herrors
    refine ⟨rfl, rfl, ?_, ?_, ?_⟩
    · simp [hfails.1, hfails.2]
    · exact iff_of_false (not_listsOnce_twice hsome) (not_not_intro hfails)
    · exact fun _ _ => ⟨_, listsOnce_lines _, rfl⟩
  · rw [if_neg hfails]
    refine ⟨rfl, rfl, ?_, ?_, ?_⟩
    · rw [← Bool.and_eq_true] at hfails
      rw [if_neg hfails]
    · exact iff_of_true (listsOnce_lines _) hfails
    · exact fun hflag herrors => absurd ⟨hflag, herrors⟩ hfails

end Command

namespace LintReportWitness

open Lint

/-- Two properties of one name, neither with a type. -/
def text : String :=
  "aspect:\n  name: Reading\n  properties:\n" ++
    "  - name: low\n    characteristic:\n      kind: text\n" ++
    "  - name: low\n    characteristic:\n      kind: text\n"

def disk : Disk := ⟨.directory [("reading.aspect.yaml", .file (.text text))], []⟩

/-- How lint ends there if an error decides the status. -/
def ending (errorsOnly : Bool) : Ending :=
  (Command.lint "reading.aspect.yaml" true errorsOnly).run ⟨[], fun _ => .missing⟩ disk

def repeated : Option Severity × List String :=
  (some .error, ["   [duplicate_property] Reading.low",
    "      'low' is declared more than once under Reading",
    "      💡 Suggestion: Rename one of the properties; both would register the same form control"])

theorem exists_load : ∃ m, Model.load disk "reading.aspect.yaml" = .ok m ∧
    m.lint.length = 3 ∧ hasErrors m.lint = true ∧
    (retained true m.lint).map entry = [repeated] := by
  have hload : ((Model.load disk "reading.aspect.yaml").toOption.any fun m =>
      m.lint.length == 3 && (hasErrors m.lint &&
        (retained true m.lint).map entry == [repeated])) = true := by
    decide +kernel
  cases h : Model.load disk "reading.aspect.yaml" with
  | error f => rw [h] at hload; cases hload
  | ok m =>
      rw [h] at hload
      simpa [Except.toOption] using hload

theorem reports_lint_of_reading :
    ∃ m, Model.load disk "reading.aspect.yaml" = .ok m ∧
      m.lint.length = 3 ∧ hasErrors m.lint = true ∧
      (retained true m.lint).map entry = [repeated] ∧
      Command.Reports m true true disk (ending true) ∧
      Command.Reports m true false disk (ending false) := by
  obtain ⟨m, hload, hall, hdecides, herrors⟩ := exists_load
  exact ⟨m, hload, hall, hdecides, herrors, Command.reports_lint hload _ true true,
    Command.reports_lint hload _ true false⟩

/-- An error that decides the status is said twice. -/
theorem error_said_twice :
    ∃ m, Model.load disk "reading.aspect.yaml" = .ok m ∧
      (retained true m.lint).map entry = [repeated] ∧
      said none (ending true).printed = [repeated, repeated] ∧
      ¬ListsOnce (retained true m.lint) (ending true).printed := by
  obtain ⟨m, hload, -, hdecides, herrors⟩ := exists_load
  have hsaid : said none (ending true).printed = [repeated, repeated] := by
    have hone := List.perm_singleton.mp (herrors ▸ perm_entries (retained true m.lint))
    rw [ending, Command.run_lint hload, Command.lintLines_eq, if_pos ⟨rfl, hdecides⟩,
      said_lines_twice, hone]
    rfl
  refine ⟨m, hload, herrors, hsaid, fun honce => ?_⟩
  have hlength := honce.once.length_eq
  rw [hsaid, herrors] at hlength
  cases hlength

end LintReportWitness

end AspectForms
