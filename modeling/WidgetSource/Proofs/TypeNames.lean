import WidgetSource.Mapping.Generic
import WidgetSource.Proofs.Trimming

namespace WidgetSource

namespace Text

variable {c : Char} {p : Char → Bool} {cs : List Char}

theorem clustersAfter_flatten (before : ClusterClass) (run : PictographRun) (cs : List Char) :
    (clustersAfter before run cs).1 ++ (clustersAfter before run cs).2.flatten = cs := by
  induction cs generalizing before run with
  | nil => rfl
  | cons c cs ih =>
    have rest := ih (ClusterClass.of c) (run.next (ClusterClass.of c))
    simp only [clustersAfter]
    split <;> simp [rest]

theorem clusters_flatten (cs : List Char) : (clusters cs).flatten = cs := by
  cases cs with
  | nil => rfl
  | cons c cs => simp [clusters, clustersAfter_flatten]

theorem mem_wordsAfter (before : List Char) {rest : List (List Char)} (member : c ∈ rest.flatten)
    (kept : c ∉ ['-', '_', ' ']) : c ∈ (wordsAfter before rest).1 ++ (wordsAfter before rest).2.flatten := by
  induction rest generalizing before with
  | nil => cases member
  | cons here rest ih =>
    have later (inside : c ∈ rest.flatten) := List.mem_append.mp (ih here inside)
    simp only [wordsAfter]
    split
    · rename_i separates
      simp only [isSeparator, Bool.or_eq_true, beq_iff_eq] at separates
      have elsewhere : c ∉ here := by
        rcases separates with (rfl | rfl) | rfl <;> simp_all
      rcases List.mem_append.mp member with inside | inside
      · exact absurd inside elsewhere
      · simpa using later inside
    · rcases List.mem_append.mp member with inside | inside
      · split <;> simp [inside]
      · rcases later inside with head | tail <;> split <;> simp_all

theorem mem_words (member : c ∈ cs) (kept : c ∉ ['-', '_', ' ']) : c ∈ (words cs).flatten := by
  rw [words, List.flatten_filter_not_isEmpty, List.flatten_cons]
  rw [← clusters_flatten cs] at member
  exact mem_wordsAfter [] member kept

theorem mem_lowerChars (member : c ∈ cs) (lower : lowerChar c = [c]) (noSigma : c ≠ 'Σ') : c ∈ lowerChars cs := by
  have after (before : List Char) : c ∈ lowerAfter before cs := by
    induction cs generalizing before with
    | nil => cases member
    | cons d cs ih =>
      rw [lowerAfter]
      rcases List.mem_cons.mp member with rfl | later
      · simp [noSigma, lower]
      · exact List.mem_append_right _ (ih later (d :: before))
  exact after []

theorem mem_flatCase (member : c ∈ cs) (kept : c ∉ ['-', '_', ' ']) (lower : lowerChar c = [c]) (noSigma : c ≠ 'Σ') :
    c ∈ flatCase cs := by
  obtain ⟨word, known, inside⟩ := List.mem_flatten.mp (mem_words member kept)
  exact List.mem_flatMap.mpr ⟨word, known, mem_lowerChars inside lower noSigma⟩

end Text

theorem normalizeType_trim (type : String) : normalizeType (Text.trim type) = normalizeType type := by
  simp only [normalizeType, Text.trim, String.toList_ofList, Text.trimChars, Text.trimWhile_idempotent]

theorem dot_mem_normalizeType {type : String} (dotted : '.' ∈ type.toList) : '.' ∈ (normalizeType type).toList := by
  rw [normalizeType, String.toList_ofList]
  exact Text.mem_flatCase (Text.mem_trimWhile dotted (by decide)) (by decide) (by decide) (by decide)

namespace Kind

theorem ofType_trim (type : String) : ofType (Text.trim type) = ofType type := by
  rw [ofType, ofType, normalizeType_trim]

theorem ofType_of_dot {type : String} (dotted : '.' ∈ type.toList) : ofType type = .generic := by
  have spelled : ∀ entry ∈ spellings, '.' ∉ entry.1.toList := by decide
  have unknown : spellings.lookup (normalizeType type) = none := by
    refine List.lookup_eq_none_iff.mpr fun entry member => ?_
    have dot := dot_mem_normalizeType dotted
    rw [bne_iff_ne]
    intro same
    rw [same] at dot
    exact spelled entry member dot
  rw [ofType, unknown, Option.getD_none]

end Kind

end WidgetSource
