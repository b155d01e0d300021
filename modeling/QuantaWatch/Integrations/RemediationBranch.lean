import QuantaWatch.Lib.Text

/-!
The names of a remediation (`create_remediation` of `qw-integrations/src/github.rs`).
-/

namespace QuantaWatch.Integrations

open Lib.Text

section Names

variable (isAlphanumeric : Char → Bool)

def rewritten (id : String) : List Char :=
  (replaceChars (fun char => !isAlphanumeric char) "-" id).toList

/-- `short`, cut at the length of the id and not of the rewritten text. None stands for the
panic of the slice. -/
def short (id : String) : Option (List Char) :=
  sliceTo (rewritten isAlphanumeric id) (min (byteLength id.toList) 12)

structure RemediationNames where
  branch : String
  path : String
deriving DecidableEq

def remediationNames (id : String) : Option RemediationNames :=
  (short isAlphanumeric id).map fun short =>
    ⟨"quantawatch/pqc-" ++ String.ofList short,
      ".quantawatch/remediation-" ++ String.ofList short ++ ".md"⟩

def Cut (id : String) (front : List Char) : Prop :=
  front <+: rewritten isAlphanumeric id ∧ byteLength front = min (byteLength id.toList) 12

def NamedApart (left right : String) : Prop :=
  ∃ leftNames rightNames, remediationNames isAlphanumeric left = some leftNames ∧
    remediationNames isAlphanumeric right = some rightNames ∧
    (left ≠ right → leftNames.branch ≠ rightNames.branch ∧ leftNames.path ≠ rightNames.path)

variable {isAlphanumeric}

theorem short_eq_some_iff {id : String} {front : List Char} :
    short isAlphanumeric id = some front ↔ Cut isAlphanumeric id front := by
  rw [short, sliceTo_eq_some_iff, and_comm, Cut]
  exact and_congr_left fun _ => exists_congr fun _ => eq_comm

theorem names_eq_iff {left right : List Char} :
    ("quantawatch/pqc-" ++ String.ofList left = "quantawatch/pqc-" ++ String.ofList right ↔
        left = right) ∧
      (".quantawatch/remediation-" ++ String.ofList left ++ ".md" =
          ".quantawatch/remediation-" ++ String.ofList right ++ ".md" ↔ left = right) := by
  simp only [← String.toList_inj, String.toList_append, String.toList_ofList,
    List.append_cancel_left_eq, List.append_cancel_right_eq, and_self]

/-- The names are there and differ exactly when both cuts fall between characters and the
beginnings that they leave differ. -/
theorem named_apart_iff (left right : String) :
    NamedApart isAlphanumeric left right ↔
      ∃ leftFront rightFront, Cut isAlphanumeric left leftFront ∧
        Cut isAlphanumeric right rightFront ∧ (left ≠ right → leftFront ≠ rightFront) := by
  simp only [NamedApart, remediationNames, Option.map_eq_some_iff, short_eq_some_iff]
  constructor
  · rintro ⟨_, _, ⟨leftFront, leftCut, rfl⟩, ⟨rightFront, rightCut, rfl⟩, apart⟩
    exact ⟨leftFront, rightFront, leftCut, rightCut,
      fun differ => mt names_eq_iff.1.mpr (apart differ).1⟩
  · rintro ⟨leftFront, rightFront, leftCut, rightCut, apart⟩
    exact ⟨_, _, ⟨leftFront, leftCut, rfl⟩, ⟨rightFront, rightCut, rfl⟩, fun differ =>
      ⟨mt names_eq_iff.1.mp (apart differ), mt names_eq_iff.2.mp (apart differ)⟩⟩

end Names

theorem remediation_names_fail :
    remediationNames Char.isAlphanum "→" = none ∧
      ¬ NamedApart Char.isAlphanum "flow:support-bot->openai" "flow:support-desk->openai" := by
  have collide : remediationNames Char.isAlphanum "flow:support-bot->openai" =
      remediationNames Char.isAlphanum "flow:support-desk->openai" := by decide +kernel
  refine ⟨by decide +kernel, ?_⟩
  rintro ⟨leftNames, rightNames, leftNamed, rightNamed, apart⟩
  rw [collide, rightNamed, Option.some.injEq] at leftNamed
  exact (apart (by decide)).1 (congrArg RemediationNames.branch leftNamed.symm)

end QuantaWatch.Integrations
