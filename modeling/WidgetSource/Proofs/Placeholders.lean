import WidgetSource.Proofs.Grammar
import WidgetSource.Proofs.Histories
import Mathlib.Data.List.Infix

namespace WidgetSource

namespace Template

variable {engine : Engine} {source before after : String}

theorem engine_of_plain (follows : FollowsGrammar engine) (whole : source = before ++ placeholder ++ after)
    (plain : Plain before.toList after.toList) (value : String) :
    engine source (propertyData value) = some (before ++ value ++ after) := by
  have filled := follows _ (plainReading_sound_iff.mpr plain) value
  have spelled : (plainReading before.toList after.toList).spelled = source.toList := by
    simp [whole, placeholder_toList, plainReading, Reading.spelled, Mark.spelled]
  have shown : (plainReading before.toList after.toList).shown value.toList = (before ++ value ++ after).toList := by
    simp [plainReading, Reading.shown, Mark.shown]
  rwa [spelled, shown, String.ofList_toList, String.ofList_toList] at filled

theorem engine_of_replaces {value : String} (replaces : renderPropertyWith engine source value = before ++ value ++ after)
    {text : String} (filled : engine source (propertyData value) = some text) : text = before ++ value ++ after := by
  rwa [renderPropertyWith, filled] at replaces

/-- Without the engine the value is put in the place of the one placeholder. -/
theorem replaceAll_of_once (once : Mapping.Entry.placeholderCount source = 1)
    (whole : source = before ++ placeholder ++ after) (value : String) :
    String.ofList (Text.replaceAll placeholder.toList value.toList source.toList) = before ++ value ++ after := by
  have text : source.toList = before.toList ++ placeholder.toList ++ after.toList := by simp [whole]
  obtain ⟨first, second, split⟩ := Text.exists_splitAround_eq once
  obtain ⟨rfl, rfl⟩ := Text.splitAround_append (by decide) (by decide) (text ▸ split)
  rw [Text.replaceAll_of_splitAround_eq split]
  simp [String.append_assoc]

theorem replaces_of_engine (once : Mapping.Entry.placeholderCount source = 1)
    (whole : source = before ++ placeholder ++ after) {value : String}
    (agrees : ∀ text, engine source (propertyData value) = some text → text = before ++ value ++ after) :
    renderPropertyWith engine source value = before ++ value ++ after := by
  cases filled : engine source (propertyData value) with
  | some text => rw [renderPropertyWith, filled, ← agrees text filled]
  | none => rw [renderPropertyWith, filled, replaceAll_of_once once whole]

theorem plain_of_replaces (follows : FollowsGrammar engine) (whole : source = before ++ placeholder ++ after)
    {reading : Reading} (sound : reading.Sound []) (spelled : source = String.ofList reading.spelled)
    (replaces : ∀ value, renderPropertyWith engine source value = before ++ value ++ after) :
    Plain before.toList after.toList := by
  refine plain_of_shown sound ?_ fun value => ?_
  · rw [← String.toList_ofList (l := reading.spelled), ← spelled, whole]
    simp
  · have filled := follows reading sound (String.ofList value)
    rw [← spelled] at filled
    simpa using congrArg String.toList (engine_of_replaces (replaces _) filled)

end Template

namespace Mapping.Entry

open Template (Engine FollowsGrammar Reading Plain placeholder propertyData renderProperty renderPropertyWith)

def chip : Entry := (ofTarget "chip" "Chip").withTemplate "text" "label: Text(\x7b\x7bvalue\x7d\x7d)"

def tagFilter : Entry := (ofTarget "filter" "Filter").withTemplate "tags" "\x7b\x7b\x7bvalue\x7d\x7d\x7d"

/-- The placeholder between braces, read as a tag with three braces. -/
def tripledReading : Reading := .goes [] (.field 0 true [] Template.valueName []) (.ends [])

theorem tripledReading_sound : tripledReading.Sound [] := by
  refine .goes (by decide) (by decide) ⟨by decide, by simp, by decide⟩ trivial (.ends (by decide))

end Mapping.Entry

end WidgetSource
