import Logicless.Proofs.Processor.OneStep
import Logicless.Proofs.Text.Encoding

/-!
Templates and documents in files against the same texts in memory. What is stored as UTF-8 is rendered
as the texts are, byte order marks and all characters included, in the format that the settings or
the ending of the file's name say, and with the same error if there is one. The exception are line
ends: files are read with line feeds, so a carriage return does not come out of a file as it went in.
-/

set_option autoImplicit false

namespace Logicless

open Files Text

/-- The format of a file of data: that of the settings, unless they leave it to the file's name. -/
def Settings.formatOf (settings : Settings) (path : PathName) : String :=
  if settings.dataFormat = "auto" then DataFormat.detect path "auto" else settings.dataFormat

/-- The bytes of a text are read as that text, but for the line ends. -/
theorem Files.textOf_utf8Bytes (text : String) : textOf (utf8Bytes text) = .ok (withLineFeeds text) := by
  unfold textOf
  rw [decodeUtf8_utf8Bytes]
  rfl

section

variable {files : FileTree} {path : PathName} {text : String}

/-- A file with the bytes of a text is read as that text, but for the line ends. -/
theorem Files.FileTree.readText_utf8Bytes (stored : files.look path = .file (utf8Bytes text)) :
    files.readText path = .ok (withLineFeeds text) := by
  unfold readText
  rw [stored]
  exact textOf_utf8Bytes text

end

namespace Processor

variable {settings : Settings} {processor other : Processor} {files : FileTree}
  {templatePath dataPath : PathName} {template data : String}

/-- Rendering a text against a document that is already there. -/
theorem renderText_document_result (sound : Sound settings processor) (template : String)
    (document : Document) :
    (processor.renderText template (.document document)).1.result =
      (Attempt.parseTemplate (ofSettings settings).closing template).result.bind fun nodes =>
        (Attempt.renderNodes nodes document).result := by
  rw [renderText_result sound]
  rfl

/-- The template is read first, then the data are read and loaded. -/
theorem readFiles_result (settings : Settings) (files : FileTree) (templatePath dataPath : PathName) :
    ((ofSettings settings).readFiles files templatePath dataPath).result =
      ((files.readText templatePath).mapError .file).bind fun template =>
        ((files.readText dataPath).mapError .file).bind fun data =>
          ((Document.load data (settings.formatOf dataPath)).mapError .load).bind fun document =>
            .ok (template, document) := by
  simp only [readFiles, Reported.result_bind, Reported.result_ofExcept, ofFileResult]
  refine congrArg _ (funext fun template => ?_)
  change ((((files.readText dataPath).mapError DocumentFileError.file).bind fun data =>
    (Document.load data (settings.formatOf dataPath)).mapError DocumentFileError.load).mapError
      _).bind _ = _
  rw [mapError_bind, mapError_mapError, Reported.bind_bind]
  refine congrArg _ (funext fun data => ?_)
  rw [mapError_mapError]
  rfl

/-- Behind any calls, rendering from files ends as loading the document and rendering the template
end in memory, with line feeds in the place of all line ends. -/
theorem renderFile_utf8Bytes (sound : Sound settings processor) (otherSound : Sound settings other)
    (stored : files.look templatePath = .file (utf8Bytes template))
    (dataStored : files.look dataPath = .file (utf8Bytes data)) :
    (processor.renderFile files templatePath dataPath).1.result =
      ((Document.load (withLineFeeds data) (settings.formatOf dataPath)).mapError .load).bind
        fun document =>
          (other.renderText (withLineFeeds template) (.document document)).1.result := by
  rw [renderFile_result sound, readFiles_result, FileTree.readText_utf8Bytes stored,
    FileTree.readText_utf8Bytes dataStored]
  simp only [ok_mapError, ok_bind, Reported.bind_bind, renderText_document_result otherSound]

/-- Files that hold texts without carriage returns are rendered as these texts are in memory: both
ways have a text or neither, and it is the same. In all files, line feeds stand for the line ends. -/
theorem renderFile_eq_renderText (reachable : Reachable settings processor)
    (otherReachable : Reachable settings other)
    (stored : files.look templatePath = .file (utf8Bytes template))
    (dataStored : files.look dataPath = .file (utf8Bytes data)) :
    (processor.renderFile files templatePath dataPath).1.result =
      (((Document.load (withLineFeeds data) (settings.formatOf dataPath)).mapError .load).bind
        fun document =>
          (other.renderText (withLineFeeds template) (.document document)).1.result) ∧
    ('\r' ∉ template.toList → '\r' ∉ data.toList → ∀ text,
      (processor.renderFile files templatePath dataPath).1.result = .ok text ↔
        ∃ document, Document.load data (settings.formatOf dataPath) = .ok document ∧
          (other.renderText template (.document document)).1.result = .ok text) := by
  have staged := renderFile_utf8Bytes reachable.sound otherReachable.sound stored dataStored
  refine ⟨staged, ?_⟩
  intro plain dataPlain text
  rw [staged, (withLineFeeds_eq_self_iff template).mpr plain,
    (withLineFeeds_eq_self_iff data).mpr dataPlain]
  constructor
  · intro whole
    obtain ⟨document, loaded, rendered⟩ := exists_of_bind_eq_ok whole
    exact ⟨document, mapError_eq_ok_iff.mp loaded, rendered⟩
  · rintro ⟨document, loaded, rendered⟩
    rw [loaded]
    exact rendered

/-- A template with a byte order mark, an accent and a line end of two characters, and a document in
the format that the ending of its name stands for. -/
theorem renderFile_eq_renderText_marked :
    let files := FileTree.ofFiles [("t", utf8Bytes "\ufeffé\r\n\x7b\x7bn\x7d\x7d"),
      ("d.JSON", utf8Bytes "\x7b\"n\":\"€<\"\x7d")]
    files.look (.ofString "t") = .file (utf8Bytes "\ufeffé\r\n\x7b\x7bn\x7d\x7d") ∧
      files.look (.ofString "d.JSON") = .file (utf8Bytes "\x7b\"n\":\"€<\"\x7d") ∧
      ((ofSettings {}).renderFile files (.ofString "t") (.ofString "d.JSON")).1.result =
        .ok "\ufeffé\n€&lt;" := by
  intro files
  have stored : files.look (.ofString "t") = .file (utf8Bytes "\ufeffé\r\n\x7b\x7bn\x7d\x7d") := by
    decide +kernel
  have dataStored : files.look (.ofString "d.JSON") =
      .file (utf8Bytes "\x7b\"n\":\"€<\"\x7d") := by decide +kernel
  have format : ({} : Settings).formatOf (.ofString "d.JSON") = "json" := by
    decide +kernel
  have loaded : Document.load (withLineFeeds "\x7b\"n\":\"€<\"\x7d") "json" =
      .ok (.object [("n", .string "€<")]) := by
    rw [Document.load_json]
    cbv
  have rendered : ((ofSettings {}).renderText (withLineFeeds "\ufeffé\r\n\x7b\x7bn\x7d\x7d")
      (.document (.object [("n", .string "€<")]))).1.result = .ok "\ufeffé\n€&lt;" := by cbv
  refine ⟨stored, dataStored, ?_⟩
  rw [(renderFile_eq_renderText .new .new stored dataStored).1, format, loaded]
  exact rendered

/-- Line ends do not come out of files as they went in: a carriage return between two letters comes
out of memory as it is, and out of a file as a line feed. -/
theorem carriageReturn_lost_in_file :
    ¬ ∀ (settings : Settings) (files : FileTree) (templatePath dataPath : PathName)
      (template data text : String),
      files.look templatePath = .file (utf8Bytes template) →
      files.look dataPath = .file (utf8Bytes data) →
      (((ofSettings settings).renderFile files templatePath dataPath).1.result = .ok text ↔
        ∃ document, Document.load data (settings.formatOf dataPath) = .ok document ∧
          ((ofSettings settings).renderText template (.document document)).1.result = .ok text) := by
  intro agree
  let files := FileTree.ofFiles [("t", utf8Bytes "a\rb"), ("d.json", utf8Bytes "null")]
  have stored : files.look (.ofString "t") = .file (utf8Bytes "a\rb") := by decide +kernel
  have dataStored : files.look (.ofString "d.json") = .file (utf8Bytes "null") := by
    decide +kernel
  have format : ({} : Settings).formatOf (.ofString "d.json") = "json" := by
    decide +kernel
  have loaded : Document.load "null" "json" = .ok .null := by
    rw [Document.load_json]
    cbv
  have unchanged : withLineFeeds "null" = "null" := by cbv
  have inMemory : ((ofSettings {}).renderText "a\rb" (.document .null)).1.result = .ok "a\rb" := by
    cbv
  have fromFile : ((ofSettings {}).renderFile files (.ofString "t") (.ofString "d.json")).1.result =
      .ok "a\nb" := by
    rw [renderFile_utf8Bytes (ofSettings_sound {}) (ofSettings_sound {}) stored dataStored, format,
      unchanged, loaded]
    cbv
  have lost := (agree {} files (.ofString "t") (.ofString "d.json") "a\rb" "null" "a\rb" stored
    dataStored).mpr ⟨.null, by rw [format, loaded], inMemory⟩
  rw [fromFile, Except.ok.injEq] at lost
  exact absurd lost (by decide)

end Processor

end Logicless
