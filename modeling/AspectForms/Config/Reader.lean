import AspectForms.Config
import AspectForms.Document.Source

/-!
Configurations as they are written.  Everything may be missing.
-/

namespace AspectForms

namespace Config.Reader

open AspectForms.Document

variable {σ : Type} [Source σ]

def exclusion : σ → Result Exclusion :=
  readRecord "struct ExcludedProperty"
    [requiredMember "prop" readText fun s (e : Exclusion) => { e with under := s },
      requiredMember "propToExcludeAspectModelUrn" readText fun s e => { e with identifier := s }]
    ⟨"", ""⟩

def showing : σ → Result Showing :=
  readRecord "struct ComplexProp"
    [requiredMember "prop" readText fun s (c : Showing) => { c with property := s },
      defaultedMember "propsToShow" (readItems readText) fun names c => { c with names }]
    ⟨"", []⟩

def config : σ → Result Config :=
  readRecord "struct GeneratorConfig"
    [defaultedMember "name" readText fun s (c : Config) => { c with name := s },
      defaultedMember "selectedModelElement" (readOption readText) fun s c =>
        { c with element? := s },
      defaultedMember "excludedProperties" (readItems exclusion) fun es c =>
        { c with exclusions := es },
      defaultedMember "complexProps" (readItems showing) fun ss c => { c with showings := ss },
      defaultedMember "overwrite" Source.flag fun b c => { c with overwrite := b },
      defaultedMember "enablePagination" Source.flag fun b c => { c with pagination := b },
      defaultedMember "enableCommandBar" Source.flag fun b c => { c with commandBar := b },
      defaultedMember "outputDir" (readOption (Source.text "path string")) fun s c =>
        { c with outputDir? := s }]
    {}

end Config.Reader

end AspectForms
