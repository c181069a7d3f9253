import RowGuard.Proofs.Environment.Placeholder
import RowGuard.Proofs.Yaml.Comment
import RowGuard.Settings.Load

/-!
# Comments in a settings file

Placeholders are filled in before a settings file is read as a document, so they are filled in where a
comment holds them, too. A comment is passed over only after that: one that names a variable which is
not set keeps the settings from being loaded, and one whose values lie on its line changes nothing. Of
the reader of documents no more is used than that it passes over comments.
-/

namespace RowGuard.Settings

/-- A reader of documents passes over comments: a line ahead of a text that begins with `#` makes no
difference to the value that is read, if one is. What is said where none is may count the line. -/
def PassesComments (read : List Char → Except Yaml.Error Value) : Prop :=
  ∀ line text : List Char, line.head? = some '#' → Yaml.IsLine line →
    text.head? ≠ some '\ufeff' → (read (line ++ '\n' :: text)).toOption = (read text).toOption

theorem passesComments_read : PassesComments Yaml.read :=
  fun _ _ hmarked hline hmark => congrArg Except.toOption (Yaml.read_comment hmarked hline hmark)

/-- The settings that the value of a document describes. Only a mapping describes any. -/
def ofValue? (file : String) : Value → Option Settings
  | .map entries => some (ofEntries file entries)
  | _ => none

/-- A text gives settings if it can be filled in, is a document then, and describes some. -/
theorem toOption_ofText (read : List Char → Except Yaml.Error Value) (vars : Variables)
    (file : String) (text : List Char) :
    (ofText read vars file text).toOption =
      ((Placeholder.substitute vars text).toOption.bind fun filled =>
        (read filled).toOption).bind (ofValue? file) := by
  rw [ofText]
  cases Placeholder.substitute vars text with
  | error name => rfl
  | ok filled =>
      dsimp only [Except.toOption, Option.bind_some]
      cases read filled with
      | error e => cases e <;> rfl
      | ok value => cases value <;> rfl

example : (match ofText Yaml.read [] "c.yaml" "parser: [".toList with
    | .error (.settings .malformed) => true
    | _ => false) = true := by
  decide +kernel

/--
**A comment is filled in, then passed over.**

A line that begins with `#`, and closes every placeholder it opens, stands ahead of the text of a
settings file. If it names a variable that is not set there are no settings, whatever the text says.
Otherwise, unless a value breaks the line or cannot be printed, the settings are those that the text
gives without the line, or there are none as there are none without it. A byte order mark counts only
where it begins the document.
-/
theorem ofText_comment {read : List Char → Except Yaml.Error Value} (hread : PassesComments read)
    (vars : Variables) (file : String) {line : List Char} (hmarked : line.head? = some '#')
    (hclosed : Placeholder.Closed line) (text : List Char) :
    (∀ name, Placeholder.substitute vars line = .error name →
      ofText read vars file (line ++ '\n' :: text) = .error (.settings (.unset name))) ∧
    (∀ filled, Placeholder.substitute vars line = .ok filled → Yaml.IsLine filled →
      (∀ document, Placeholder.substitute vars text = .ok document →
        document.head? ≠ some '\ufeff') →
      (ofText read vars file (line ++ '\n' :: text)).toOption =
        (ofText read vars file text).toOption) := by
  have hline := Placeholder.substitute_line hclosed vars text
  refine ⟨fun name hname => ?_, fun filled hfilled hprinted hmark => ?_⟩
  · rw [ofText, hline, hname]
    rfl
  · have hstart := Placeholder.head?_substitute hfilled hmarked (by decide)
    rw [toOption_ofText, toOption_ofText, hline, hfilled]
    cases hdocument : Placeholder.substitute vars text with
    | error name => rfl
    | ok document =>
        have hsame := hread filled document hstart hprinted (hmark document hdocument)
        exact congrArg (·.bind (ofValue? file)) hsame

/-- A comment that tells of placeholders, as the settings file that comes with the program has one. -/
theorem ofText_comment_unset :
    let line := "# ${VAR_NAME} placeholders are replaced from the environment (or .env)".toList
    let text := "parser:\n  log_query_length: 5\n".toList
    line.head? = some '#' ∧ Yaml.IsLine line ∧
      (ofText Yaml.read [] "c.yaml" text).isOk = true ∧
      ofText Yaml.read [] "c.yaml" (line ++ '\n' :: text) =
        .error (.settings (.unset "VAR_NAME")) := by
  refine ⟨rfl, by decide +kernel, by decide +kernel, rfl⟩

/-- A comment whose variable is set. -/
theorem ofText_comment_filled :
    let vars : Variables := [("NAME", "a")]
    let line := "# by ${NAME}".toList
    let text := "parser: {log_query_length: 5}".toList
    PassesComments Yaml.read ∧ line.head? = some '#' ∧ Placeholder.Closed line ∧
      (ofText Yaml.read vars "c.yaml" (line ++ '\n' :: text)).toOption =
        (ofText Yaml.read vars "c.yaml" text).toOption ∧
      (ofText Yaml.read vars "c.yaml" text).isOk = true := by
  intro vars line text
  have hclosed : Placeholder.Closed line := by decide +kernel
  have hfilled : Placeholder.substitute vars line = .ok "# by a".toList := by decide +kernel
  have hdocument : Placeholder.substitute vars text = .ok text := by decide +kernel
  refine ⟨passesComments_read, rfl, hclosed, ?_, by decide +kernel⟩
  refine (ofText_comment passesComments_read vars "c.yaml" rfl hclosed text).2 _ hfilled
    (by decide +kernel) ?_
  intro document h
  obtain rfl := Except.ok.inj (hdocument.symm.trans h)
  decide +kernel

end RowGuard.Settings
