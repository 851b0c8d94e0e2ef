import MarkdownPreview.Highlight.Stylesheet

/-!
The two color schemes of highlighted code.
-/

namespace MarkdownPreview.Highlight.Scheme

/-- The selector of a string in `depth` nested dictionaries. -/
def nestedDictionary (depth : Nat) (value : Bool) : String :=
  String.join (List.replicate depth ".meta ") ++ ".meta.structure.dictionary.json " ++
    (if value then ".meta.structure.dictionary.value.json " else "") ++
    ".string.quoted.double.json"

/-- Keys and values of dictionaries in up to twenty others, the innermost first. -/
def dictionaryRules : List StyleRule :=
  (List.range 21).reverse.flatMap fun depth =>
    [{ selectors := [nestedDictionary depth false], color := some "183691", bold := true },
     { selectors := [nestedDictionary depth true], color := some "323232" }]

/-- Dark text on white. -/
def light : Stylesheet where
  name := "GitHub"
  color := "323232"
  background := "ffffff"
  rules := [
    { selectors := [".comment"], color := some "969896", italic := true },
    { selectors := [".string"], color := some "183691" },
    { selectors := [".regexp-operator"], color := some "a71d5d" },
    { selectors := [".string.regexp.characterclass .punctuation.definition.string.begin",
      ".string.regexp.characterclass .punctuation.definition.string.end"],
      color := some "a71d5d" },
    { selectors := [".constant.numeric"], color := some "0086b3" },
    { selectors := [".constant.language"], color := some "0086b3" },
    { selectors := [".constant.character", ".constant.other", ".variable.other.constant"],
      color := some "0086b3" },
    { selectors := [".variable"], color := some "323232" },
    { selectors := [".keyword"], color := some "a71d5d", bold := true },
    { selectors := [".bitwise-operator"], color := some "a71d5d", bold := true },
    { selectors := [".storage"], color := some "a71d5d", bold := true },
    { selectors := [".storage.type"], color := some "a71d5d", bold := true },
    { selectors := [".entity.name.class"], color := some "0086b3" },
    { selectors := [".entity.other.inherited-class"], color := some "0086b3" },
    { selectors := [".entity.name.function"], color := some "795da3", bold := true },
    { selectors := [".variable.parameter"], color := some "323232" },
    { selectors := [".entity.name.tag"], color := some "63a35c" },
    { selectors := [".entity.other.attribute-name"], color := some "795da3" },
    { selectors := [".support.function"], color := some "62a35c" },
    { selectors := [".support.constant"], color := some "0086b3" },
    { selectors := [".support.type", ".support.class"], color := some "0086b3" },
    { selectors := [".support.other.variable"], color := some "323232" },
    { selectors := [".invalid", ".invalid.illegal", ".invalid.deprecated"],
      color := some "b52a1d", background := some "f5f5f5", bold := true },
    { selectors := [".entity.name.filename.find-in-files"], color := some "323232", bold := true },
    { selectors := [".constant.numeric.line-number.find-in-files",
      ".constant.numeric.line-number.match.find-in-files"],
      color := some "b3b3b3" },
    { selectors := [".meta.diff.header"],
      color := some "969896", background := some "ffffff", italic := true },
    { selectors := [".meta.diff.header .punctuation.definition.from-file.diff"],
      color := some "bd2c00", background := some "ffecec", bold := true, italic := true },
    { selectors := [".meta.diff.header .punctuation.definition.to-file.diff"],
      color := some "55a532", background := some "eaffea", bold := true, italic := true },
    { selectors := [".meta.diff.range"], color := some "969896", bold := true, italic := true },
    { selectors := [".markup.deleted"], background := some "ffecec" },
    { selectors := [".markup.deleted .punctuation.definition.inserted"],
      color := some "bd2c00", bold := true },
    { selectors := [".markup.inserted"], background := some "eaffea" },
    { selectors := [".markup.inserted .punctuation.definition.inserted"],
      color := some "55a532", bold := true },
    { selectors := [".markup.deleted.git_gutter"], color := some "bd2c00" },
    { selectors := [".markup.inserted.git_gutter"], color := some "55a532" },
    { selectors := [".markup.changed.git_gutter"], color := some "0086b3" },
    { selectors := [".markup.ignored.git_gutter"], color := some "b3b3b3" },
    { selectors := [".markup.untracked.git_gutter"], color := some "b3b3b3" },
    { selectors := [".source.css .punctuation.definition.entity"], color := some "323232" },
    { selectors := [".source.css .entity.other.attribute-name.pseudo-class",
      ".source.css .entity.other.attribute-name.pseudo-element"],
      color := some "a71d5d" },
    { selectors := [".source.css .meta.value", ".source.css .support.constant",
      ".source.css .support.function"],
      color := some "323232" },
    { selectors := [".source.css .constant.other.color"], color := some "ed6a43" },
    { selectors := [".source.scss .punctuation.definition.entity"], color := some "323232" },
    { selectors := [".source.scss .entity.other.attribute-name.pseudo-class",
      ".source.scss .entity.other.attribute-name.pseudo-element"],
      color := some "a71d5d" },
    { selectors := [".source.scss .support.constant.property-value",
      ".source.scss .support.function"],
      color := some "323232" },
    { selectors := [".source.scss .variable"], color := some "a71d5d" },
    { selectors := [".variable.language.this.js"], color := some "ed6a43" },
    { selectors := [".source.js .entity.name.function"], color := some "323232" },
    { selectors := [".source.js .meta.function .entity.name.function",
      ".source.js .entity.name.function .meta.function"],
      color := some "795da3", bold := true },
    { selectors := [".entity.name.type.new.js"], color := some "795da3" },
    { selectors := [".variable.language.prototype.js"], color := some "0086b3" },
    { selectors := [".source.js .support.function"], color := some "0086b3" },
    { selectors := [".support.type.object.console.js"], color := some "795da3" }] ++ dictionaryRules ++ [
    { selectors := [".source.python .keyword"], bold := true },
    { selectors := [".source.python .storage"], bold := true },
    { selectors := [".source.python .storage.type"], bold := true },
    { selectors := [".source.python .entity.name.function"], color := some "323232", bold := true },
    { selectors := [".source.php .entity.name.type.class"], color := some "323232", bold := true },
    { selectors := [".variable.language.ruby"], color := some "ed6a43" },
    { selectors := [".entity.name.type.module.ruby"], color := some "795da3", bold := true },
    { selectors := [".entity.name.type.class.ruby"], color := some "795da3", bold := true },
    { selectors := [".entity.other.inherited-class.ruby"], color := some "795da3", bold := true },
    { selectors := [".text.html.markdown .punctuation.definition"], color := some "a71d5d" },
    { selectors := [".text.html.markdown .meta.separator"], color := some "b3b3b3" },
    { selectors := [".text.html.markdown .markup.heading"], bold := true },
    { selectors := [".text.html.markdown .markup.raw.block"], color := some "323232" },
    { selectors := [".text.html.markdown .markup.raw.inline"], color := some "323232" },
    { selectors := [".text.html.markdown .meta.link", ".text.html.markdown .meta.image"],
      color := some "4183c4" },
    { selectors := [".text.html.markdown .markup.underline.link",
      ".text.html.markdown .constant.other.reference"],
      italic := true },
    { selectors := [".text.html.markdown .markup.list"], color := some "ed6a43" },
    { selectors := [".text.html.markdown .markup.bold"], bold := true },
    { selectors := [".text.html.markdown .markup.italic"], italic := true },
    { selectors := [".text.html.markdown .markup.bold .markup.italic"],
      bold := true, italic := true },
    { selectors := [".text.html.markdown .markup.italic .markup.bold"],
      bold := true, italic := true }]

/-- Light text on dark blue. -/
def dark : Stylesheet where
  name := "Base16 Ocean Dark"
  color := "c0c5ce"
  background := "2b303b"
  rules := [
    { selectors := [".variable.parameter.function"], color := some "c0c5ce" },
    { selectors := [".comment", ".punctuation.definition.comment"], color := some "65737e" },
    { selectors := [".punctuation.definition.string", ".punctuation.definition.variable",
      ".punctuation.definition.string", ".punctuation.definition.parameters",
      ".punctuation.definition.string", ".punctuation.definition.array"],
      color := some "c0c5ce" },
    { selectors := [".none"], color := some "c0c5ce" },
    { selectors := [".keyword.operator"], color := some "c0c5ce" },
    { selectors := [".keyword"], color := some "b48ead" },
    { selectors := [".variable", ".variable.other.dollar.only.js"], color := some "bf616a" },
    { selectors := [".entity.name.function", ".meta.require", ".support.function.any-method",
      ".variable.function"],
      color := some "8fa1b3" },
    { selectors := [".support.class", ".entity.name.class", ".entity.name.type.class"],
      color := some "ebcb8b" },
    { selectors := [".meta.class"], color := some "eff1f5" },
    { selectors := [".keyword.other.special-method"], color := some "8fa1b3" },
    { selectors := [".storage"], color := some "b48ead" },
    { selectors := [".support.function"], color := some "96b5b4" },
    { selectors := [".string", ".constant.other.symbol", ".entity.other.inherited-class"],
      color := some "a3be8c" },
    { selectors := [".constant.numeric"], color := some "d08770" },
    { selectors := [".none"], color := some "d08770" },
    { selectors := [".none"], color := some "d08770" },
    { selectors := [".constant"], color := some "d08770" },
    { selectors := [".entity.name.tag"], color := some "bf616a" },
    { selectors := [".entity.other.attribute-name"], color := some "d08770" },
    { selectors := [".entity.other.attribute-name.id", ".punctuation.definition.entity"],
      color := some "8fa1b3" },
    { selectors := [".meta.selector"], color := some "b48ead" },
    { selectors := [".none"], color := some "d08770" },
    { selectors := [".markup.heading .punctuation.definition.heading", ".entity.name.section"],
      color := some "8fa1b3" },
    { selectors := [".keyword.other.unit"], color := some "d08770" },
    { selectors := [".markup.bold", ".punctuation.definition.bold"],
      color := some "ebcb8b", bold := true },
    { selectors := [".markup.italic", ".punctuation.definition.italic"],
      color := some "b48ead", italic := true },
    { selectors := [".markup.raw.inline"], color := some "a3be8c" },
    { selectors := [".string.other.link"], color := some "bf616a" },
    { selectors := [".meta.link"], color := some "d08770" },
    { selectors := [".meta.image"], color := some "d08770" },
    { selectors := [".markup.list"], color := some "bf616a" },
    { selectors := [".markup.quote"], color := some "d08770" },
    { selectors := [".meta.separator"], color := some "c0c5ce", background := some "4f5b66" },
    { selectors := [".markup.inserted", ".markup.inserted.git_gutter"], color := some "a3be8c" },
    { selectors := [".markup.deleted", ".markup.deleted.git_gutter"], color := some "bf616a" },
    { selectors := [".markup.changed", ".markup.changed.git_gutter"], color := some "b48ead" },
    { selectors := [".markup.ignored", ".markup.ignored.git_gutter"], color := some "4f5b66" },
    { selectors := [".markup.untracked", ".markup.untracked.git_gutter"], color := some "4f5b66" },
    { selectors := [".constant.other.color"], color := some "96b5b4" },
    { selectors := [".string.regexp"], color := some "96b5b4" },
    { selectors := [".constant.character.escape"], color := some "96b5b4" },
    { selectors := [".punctuation.section.embedded", ".variable.interpolation"],
      color := some "ab7967" },
    { selectors := [".invalid.illegal"], color := some "2b303b", background := some "bf616a" },
    { selectors := [".markup.deleted.git_gutter"], color := some "f92672" },
    { selectors := [".markup.inserted.git_gutter"], color := some "a6e22e" },
    { selectors := [".markup.changed.git_gutter"], color := some "967efb" },
    { selectors := [".markup.ignored.git_gutter"], color := some "565656" },
    { selectors := [".markup.untracked.git_gutter"], color := some "565656" }]

end MarkdownPreview.Highlight.Scheme

namespace MarkdownPreview.Highlight

/-- Stylesheets by their names. One that is known may still fail to be written. -/
abbrev Sheets := String → Option (Except String String)

/-- Why there is no stylesheet. -/
inductive StyleError
  | unknown (name : String)
  | failed (cause : String)
  deriving DecidableEq, Repr

def StyleError.message : StyleError → String
  | unknown name => "unknown highlight style: " ++ name
  | failed cause => "syntax highlighting failed: " ++ cause

inductive ColorScheme
  | light | dark
  deriving DecidableEq, Repr, Inhabited

namespace ColorScheme

def all : List ColorScheme := [light, dark]

/-- The name under which a scheme is known. -/
def name : ColorScheme → String
  | light => "InspiredGitHub"
  | dark => "base16-ocean.dark"

def sheet : ColorScheme → Stylesheet
  | light => Scheme.light
  | dark => Scheme.dark

/-- The text of a scheme's stylesheet. -/
def styles (sheets : Sheets) (scheme : ColorScheme) : Except StyleError String :=
  match sheets scheme.name with
  | none => .error (.unknown scheme.name)
  | some (.error cause) => .error (.failed cause)
  | some (.ok text) => .ok text

end ColorScheme

/-- The stylesheets of this library. -/
def Sheets.standard : Sheets := fun name =>
  (ColorScheme.all.find? (·.name == name)).map fun scheme => .ok scheme.sheet.text

end MarkdownPreview.Highlight
