import WidgetSource.Mapping.Table
import WidgetSource.Options
import WidgetSource.Text.Lines

namespace WidgetSource

structure MappingRecord where
  type : String
  target : String
  templates : Fields String
  imports : String
  takesChildren : Bool
  isActive : Bool
  deriving DecidableEq, Repr

structure Config where
  options : Options := {}
  mappings : List MappingRecord := []
  includeDefaultMappings : Bool := true

inductive ConfigError
  | read (error : Json.ReadError)
  | option (fault : OptionFault)

namespace MappingRecord

/-- The entry of a record; each line of the imports is one. -/
def entry (record : MappingRecord) : Mapping.Entry :=
  let start := (Mapping.Entry.ofTarget record.type record.target).withChildren record.takesChildren
  let templated := record.templates.foldl (fun entry (property, template) => entry.withTemplate property template) start
  ((Text.lines record.imports).filter (!Text.isBlank ·)).foldl (fun entry line => entry.withImport line) templated

def fields : List (Json.Field MappingRecord) := [
  .mandatory "ui_type" Json.Reader.text fun s r => { r with type := s },
  .mandatory "flutter_widget" Json.Reader.text fun s r => { r with target := s },
  .optional "properties_mapping" (Json.Reader.fields Json.Reader.text) fun ts r => { r with templates := ts },
  .optional "import_statements" Json.Reader.text fun s r => { r with imports := s },
  .optional "can_have_children" Json.Reader.bool fun b r => { r with takesChildren := b },
  .optional "is_active" Json.Reader.bool fun b r => { r with isActive := b }]

/-- Reads a record; it is active unless it says otherwise. -/
def reader : Json.Reader MappingRecord :=
  Json.Reader.record "MappingRecord" fields ⟨"", "", [], "", false, true⟩

end MappingRecord

namespace Mapping.Entry

def fields : List (Json.Field Mapping.Entry) := [
  .mandatory "ui_type" Json.Reader.text fun s e => { e with type := s },
  .mandatory "target_widget" Json.Reader.text fun s e => { e with target := s },
  .optional "property_templates" (Json.Reader.fields Json.Reader.text) fun ts e => { e with templates := ts },
  .optional "extra_imports" (Json.Reader.list Json.Reader.text) fun is e => { e with imports := is },
  .optional "can_have_children" Json.Reader.bool fun b e => { e with takesChildren := b }]

def reader : Json.Reader Mapping.Entry :=
  Json.Reader.record "MappingEntry" fields ⟨"", "", [], [], false⟩

end Mapping.Entry

namespace Config

def fields : List (Json.Field Config) := [
  .optional "options" Options.reader fun o c => { c with options := o },
  .optional "mappings" (Json.Reader.list MappingRecord.reader) fun ms c => { c with mappings := ms },
  .optional "includeDefaultMappings" Json.Reader.bool fun b c => { c with includeDefaultMappings := b }]

def reader : Json.Reader Config :=
  Json.Reader.record "GeneratorConfig" fields {}

def ofText (text : String) : Except ConfigError Config :=
  match reader.ofText text with
  | .error error => .error (.read error)
  | .ok config =>
    match config.options.fault? with
    | some fault => .error (.option fault)
    | none => .ok config

def base (config : Config) : Mapping.Table :=
  if config.includeDefaultMappings then .stock else .empty

/-- The table of the active records, in order, over the base; the first that is refused is the error. -/
def table (config : Config) : Except Mapping.InvalidEntry Mapping.Table :=
  config.mappings.foldlM
    (fun table record => if record.isActive then table.insert record.entry else .ok table) config.base

end Config

end WidgetSource
