import Logicless.CommandLine.Outcome

/-!
What the messages of errors tell. An error that the user can mend has a message that is more than
blanks, so the line that shows it is no empty one.
-/

set_option autoImplicit false

namespace Logicless

def Text.Speaks (text : String) : Prop := ∃ c ∈ text.toList, isBlank c = false

namespace Text

variable {text first second : String}

instance (text : String) : Decidable (Speaks text) := List.decidableBEx _ _

theorem Speaks.append (speaks : Speaks first) (second : String) : Speaks (first ++ second) := by
  obtain ⟨c, among, solid⟩ := speaks
  refine ⟨c, ?_, solid⟩
  rw [String.toList_append]
  exact List.mem_append_left _ among

theorem Speaks.behind (speaks : Speaks second) (first : String) : Speaks (first ++ second) := by
  obtain ⟨c, among, solid⟩ := speaks
  refine ⟨c, ?_, solid⟩
  rw [String.toList_append]
  exact List.mem_append_right _ among

/-- The blanks at the end are no part of what a text tells. -/
theorem Speaks.trimRight (speaks : Speaks text) : Speaks (String.ofList (trimRight text.toList)) := by
  obtain ⟨c, among, solid⟩ := speaks
  refine ⟨c, ?_, solid⟩
  rw [String.toList_ofList, Text.trimRight, dropEndOf, List.mem_reverse]
  have split := List.takeWhile_append_dropWhile (p := isBlank) (l := text.toList.reverse)
  rw [← List.mem_reverse, ← split, List.mem_append] at among
  rcases among with blank | kept
  · rw [List.all_eq_true.mp List.all_takeWhile c blank] at solid
    cases solid
  · exact kept

end Text

open Text

/-! ## Templates, files and data -/

theorem Template.LexError.speaks (error : LexError) : Speaks error.message := by
  have start : Speaks "Unknown mustache tag: " := by decide
  exact ((((start.append _).append _).append _).append _).append _

theorem Template.ParseError.speaks (error : ParseError) : Speaks error.message := by
  have last : Speaks ")" := by decide
  exact last.behind _

theorem Template.TemplateError.speaks (error : TemplateError) : Speaks error.message := by
  cases error with
  | lex error => exact error.speaks
  | parse error => exact error.speaks

theorem Files.FileError.speaks (error : FileError) : Speaks error.message := by
  cases error with
  | decoding error =>
      have start : Speaks "'utf-8' codec can't decode " := by decide
      exact ((start.append _).append _).append _
  | _ => decide

theorem Number.NumberError.speaks (error : NumberError) : Speaks error.message := by
  cases error with
  | notAnInteger base text =>
      have start : Speaks "invalid literal for int() with base " := by decide
      exact ((start.append _).append _).append _
  | notAFloat text =>
      have start : Speaks "could not convert string to float: " := by decide
      exact start.append _
  | tooManyDigits limit count =>
      have start : Speaks "Exceeds the limit (" := by decide
      exact (((start.append _).append _).append _).append _
  | empty => decide

theorem Number.speaks_unwritableMessage : Speaks unwritableMessage := by
  have start : Speaks "Exceeds the limit (" := by decide
  exact (start.append _).append _

theorem Calendar.CalendarError.speaks (error : CalendarError) : Speaks error.message := by
  cases error with
  | year value =>
      have last : Speaks " is out of range" := by decide
      exact last.behind _
  | zone minutes =>
      have last : Speaks "." := by decide
      exact last.behind _
  | _ => decide

theorem Yaml.Error.speaks {error : Yaml.Error} (mendable : error.isMendable = true) :
    Speaks error.message := by
  cases error with
  | malformed => decide
  | number error => exact error.speaks
  | calendar error => exact error.speaks
  | codePoint value =>
      have whole : Speaks "chr() arg not in range(0x110000)" := by decide
      exact whole
  | unwritable => exact Number.speaks_unwritableMessage
  | _ => cases mendable

theorem Json.Error.speaks (error : Json.Error) : Speaks error.message := by
  cases error with
  | malformed fault place =>
      have last : Speaks ")" := by decide
      exact last.behind _
  | constant name =>
      have start : Speaks "Invalid JSON constant: " := by decide
      exact start.append _
  | number error => exact error.speaks

theorem ShapeError.speaks (error : ShapeError) : Speaks error.message := by
  cases error with
  | unsupported path typeName =>
      have middle : Speaks ": unsupported value of type " := by decide
      exact (middle.behind _).append _
  | notFinite path value =>
      have middle : Speaks ": non-finite number " := by decide
      exact (middle.behind _).append _
  | keyNotText path key =>
      have last : Speaks " is not a string" := by decide
      exact last.behind _
  | unwritable => exact Number.speaks_unwritableMessage
  | endless => decide

theorem LoadError.speaks {error : LoadError} (mendable : error.isMendable = true) :
    Speaks error.message := by
  cases error with
  | unknownFormat name =>
      have start : Speaks "Unknown data format '" := by decide
      exact ((start.append _).append _).append _
  | json error => exact error.speaks
  | yaml error => exact Yaml.Error.speaks mendable
  | shape error => exact error.speaks

/-! ## Commands -/

theorem SettingsError.speaks {error : SettingsError} (mendable : error.isMendable = true) :
    Speaks error.message := by
  cases error with
  | file error => exact Files.FileError.speaks error
  | yaml path error =>
      cases error with
      | malformed =>
          have last : Speaks ": invalid YAML" := by decide
          exact last.behind _
      | _ => exact Yaml.Error.speaks mendable
  | notMapping path =>
      have last : Speaks ": top level must be a mapping" := by decide
      exact last.behind _
  | schema version =>
      have start : Speaks "Unsupported config schema " := by decide
      exact (start.append _).append _
  | unknownKey path key =>
      have last : Speaks "'" := by decide
      exact last.behind _
  | wrongType path key expected actual =>
      have middle : Speaks ", got " := by decide
      exact (middle.behind _).append _
  | dataFormat path value =>
      have last : Speaks "'" := by decide
      exact last.behind _
  | unwritable => exact Number.speaks_unwritableMessage

theorem RenderError.speaks {error : RenderError} (mendable : error.isMendable = true) :
    Speaks error.message := by
  cases error with
  | sectionType name kind =>
      have last : Speaks "; expected a bool or an array" := by decide
      exact last.behind _
  | unwritable => exact Number.speaks_unwritableMessage
  | _ => cases mendable

theorem ProcessError.speaks {error : ProcessError} (mendable : error.isMendable = true) :
    Speaks error.message := by
  cases error with
  | template error => exact Template.TemplateError.speaks error
  | load error => exact LoadError.speaks mendable
  | render error => exact RenderError.speaks mendable
  | file error => exact Files.FileError.speaks error
  | _ => cases mendable

/-- Whatever the user can mend is told. -/
theorem CommandLine.Failure.speaks {failure : Failure} (mendable : failure.isMendable = true) :
    Speaks failure.message := by
  cases failure with
  | configMissing path =>
      have start : Speaks "Config file not found: " := by decide
      exact start.append _
  | templateMissing path =>
      have start : Speaks "Template file not found: " := by decide
      exact start.append _
  | dataMissing path =>
      have start : Speaks "Data file not found: " := by decide
      exact start.append _
  | name error =>
      have start : Speaks "Invalid name " := by decide
      exact start.append _
  | file error => exact Files.FileError.speaks error
  | settings error => exact SettingsError.speaks mendable
  | process error => exact ProcessError.speaks mendable
  | dataUnnamed => cases mendable
  | node error => cases mendable

/-- The line that shows a message is no empty one. -/
theorem CommandLine.speaks_messageLine {message : String} (speaks : Speaks message) :
    Speaks (messageLine message) := speaks.trimRight.append "\n"

end Logicless
