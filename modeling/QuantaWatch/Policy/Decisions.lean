import QuantaWatch.Lib.Glob
import QuantaWatch.Policy.Engine

/-!
What the decisions of the policy engine depend on.
-/

namespace QuantaWatch.Policy

open Lib

def Overlap (front back : List Char) : Prop :=
  ∃ piece : List Char, piece ≠ [] ∧ piece <:+ front ∧ piece <+: back

def OneStar (pattern : String) : Prop :=
  match pattern.toList.splitOn '*' with
  | [_] => True
  | [front, back] => ¬ Overlap front back
  | _ => False

variable {pattern value : String} {front back : List Char}

theorem matchesGlob_of_parts (parts : pattern.toList.splitOn '*' = [front, back]) :
    matchesGlob pattern value = true ↔ front <+: value.toList ∧ back <:+ value.toList := by
  rw [matchesGlob]
  split_ifs with isStar
  · subst isStar
    have split : "*".toList.splitOn '*' = [[], []] := by decide
    rw [split, List.cons.injEq, List.cons.injEq] at parts
    obtain ⟨rfl, rfl, _⟩ := parts
    simp
  · rw [parts]
    simp

theorem fits_pair_iff {text : List Char} (apart : ¬ Overlap front back) :
    Glob.Fits [front, back] text ↔ front <+: text ∧ back <:+ text := by
  constructor
  · rintro ⟨gap, tail, rfl, rfl⟩
    exact ⟨List.prefix_append front _, (List.suffix_append gap tail).trans (List.suffix_append _ _)⟩
  · rintro ⟨⟨rest, rfl⟩, isSuffix⟩
    by_cases longEnough : back.length ≤ rest.length
    · obtain ⟨gap, rfl⟩ :=
        List.suffix_of_suffix_length_le isSuffix (List.suffix_append front rest) longEnough
      exact ⟨gap, back, rfl, rfl⟩
    · -- The suffix begins within the prefix.
      obtain ⟨piece, rfl⟩ := List.suffix_of_suffix_length_le (List.suffix_append front rest)
        isSuffix (by omega)
      have inFront : piece <:+ front := by
        obtain ⟨before, same⟩ := isSuffix
        rw [← List.append_assoc] at same
        exact ⟨before, List.append_cancel_right same⟩
      refine absurd ⟨piece, ?_, inFront, List.prefix_append piece rest⟩ apart
      rintro rfl
      simp at longEnough

theorem fits_flatten {parts : List (List Char)} (some : parts ≠ []) :
    Glob.Fits parts parts.flatten := by
  induction parts with
  | nil => exact absurd rfl some
  | cons part parts ih =>
    cases parts with
    | nil => simp [Glob.Fits]
    | cons next rest => exact ⟨[], _, rfl, ih (by simp)⟩

theorem length_flatten_le (parts : List (List Char)) :
    parts.flatten.length ≤ (['*'].intercalate parts).length := by
  induction parts with
  | nil => simp
  | cons part parts ih =>
    cases parts with
    | nil => simp
    | cons next rest =>
      rw [List.intercalate_cons_cons, List.flatten_cons, List.length_append,
        List.length_append, List.length_append]
      omega

theorem matchesGlob_of_not_pair (notPair : (pattern.toList.splitOn '*').length ≠ 2) :
    matchesGlob pattern value = true ↔ pattern = value := by
  have notStar : pattern ≠ "*" := by
    rintro rfl
    exact notPair (by decide)
  rw [matchesGlob, if_neg notStar]
  split
  · next front back parts => exact absurd (by rw [parts]; rfl) notPair
  · exact decide_eq_true_iff

/-- The engine's glob is the usual one exactly for patterns with at most one star
around which the texts do not overlap. -/
theorem matchesGlob_correct_iff (pattern : String) :
    (∀ value : String,
      matchesGlob pattern value = true ↔ Glob.Matches '*' pattern.toList value.toList) ↔
      OneStar pattern := by
  rw [OneStar]
  simp only [Glob.matches_iff_fits]
  match parts : pattern.toList.splitOn '*' with
  | [] => exact absurd parts (List.splitOn_ne_nil _ _)
  | [only] =>
    have isOnly : pattern.toList = only := by
      simpa [parts] using (@List.intercalate_splitOn _ pattern.toList _ _ '*').symm
    refine iff_of_true (fun value => ?_) trivial
    rw [matchesGlob_of_not_pair (by rw [parts]; simp), Glob.Fits, ← isOnly, String.toList_inj,
      eq_comm]
  | [front, back] =>
    simp only [matchesGlob_of_parts parts]
    constructor
    · rintro correct ⟨piece, notEmpty, ⟨before, rfl⟩, ⟨after, rfl⟩⟩
      -- The texts around the star share the piece.
      have shared := (correct (String.ofList (before ++ (piece ++ after)))).mp (by simp)
      obtain ⟨gap, tail, same, rfl⟩ := shared
      have length := congrArg List.length same
      have positive := List.length_pos_of_ne_nil notEmpty
      simp only [String.toList_ofList, List.length_append] at length
      omega
    · intro apart value
      exact (fits_pair_iff apart).symm
  | first :: next :: other :: rest =>
    refine iff_of_false (fun correct => ?_) id
    -- The stars left out.
    have fits : Glob.Fits (first :: next :: other :: rest)
        (String.ofList (first :: next :: other :: rest).flatten).toList := by
      rw [String.toList_ofList]
      exact fits_flatten (by simp)
    have itself := (matchesGlob_of_not_pair (by rw [parts]; simp)).mp ((correct _).mpr fits)
    have joined : pattern.toList = ['*'].intercalate (first :: next :: other :: rest) := by
      rw [← parts, List.intercalate_splitOn]
    have length := congrArg List.length (String.toList_inj.mpr itself)
    have shorter := length_flatten_le (next :: other :: rest)
    rw [joined, String.toList_ofList, List.intercalate_cons_cons, List.flatten_cons,
      List.length_append, List.length_append, List.length_append, List.length_singleton] at length
    omega

theorem matchesGlob_differs :
    (matchesGlob "a*b*c" "abc" = false ∧ Glob.Matches '*' "a*b*c".toList "abc".toList) ∧
      matchesGlob "ab*ba" "aba" = true ∧ ¬ Glob.Matches '*' "ab*ba".toList "aba".toList := by
  refine ⟨⟨by decide, ?_⟩, by decide, ?_⟩
  · exact .literal (by decide) (.star [] (.literal (by decide) (.star []
      (.literal (by decide) .nil))))
  · rw [Glob.matches_iff_fits]
    rintro ⟨gap, tail, same, rfl⟩
    have length := congrArg List.length same
    simp at length

namespace AgentPolicy

def Admits (policy : AgentPolicy) (tool : String) : Prop :=
  (∀ pattern ∈ policy.blockedTools, matchesGlob pattern tool = false) ∧
    (policy.allowedTools = [] ∨ ∃ pattern ∈ policy.allowedTools, matchesGlob pattern tool = true)

instance (policy : AgentPolicy) (tool : String) : Decidable (policy.Admits tool) :=
  inferInstanceAs (Decidable (_ ∧ _))

def Narrows (before after : List String) : Prop := after = before ∨ after ≠ [] ∧ after ⊆ before

structure Stricter (policy strict : AgentPolicy) : Prop where
  blockedTools : policy.blockedTools ⊆ strict.blockedTools
  allowedTools : Narrows policy.allowedTools strict.allowedTools
  allowedModels : Narrows policy.allowedModels strict.allowedModels
  offline : strict.offline = policy.offline

variable {policy strict : AgentPolicy}

theorem permits_iff {tool : String} : policy.permits tool = true ↔ policy.Admits tool := by
  simp [permits, Admits]

theorem Narrows.any {before after : List String} (narrows : Narrows before after) {text : String}
    (passes : (after.isEmpty || after.any (matchesGlob · text)) = true) :
    (before.isEmpty || before.any (matchesGlob · text)) = true := by
  obtain rfl | ⟨notEmpty, fewer⟩ := narrows
  · exact passes
  · rw [Bool.or_eq_true, List.isEmpty_iff, List.any_eq_true] at passes ⊢
    obtain ⟨pattern, member, found⟩ := passes.resolve_left notEmpty
    exact .inr ⟨pattern, fewer member, found⟩

variable (stricter : policy.Stricter strict)

include stricter

theorem Stricter.permits {tool : String} (permitted : strict.permits tool = true) :
    policy.permits tool = true := by
  rw [AgentPolicy.permits] at permitted ⊢
  split_ifs at permitted with isBlocked
  have free : policy.blockedTools.any (matchesGlob · tool) = false := by
    rw [List.any_eq_true] at isBlocked
    rw [Bool.eq_false_iff, Ne, List.any_eq_true]
    rintro ⟨pattern, member, found⟩
    exact isBlocked ⟨pattern, stricter.blockedTools member, found⟩
  rw [if_neg (by rw [free]; decide)]
  exact stricter.allowedTools.any permitted

theorem Stricter.permitsModel {model : String} (permitted : strict.permitsModel model = true) :
    policy.permitsModel model = true :=
  stricter.allowedModels.any permitted

theorem Stricter.refusesProvider (provider : String) :
    strict.refusesProvider provider = policy.refusesProvider provider := by
  rw [AgentPolicy.refusesProvider, AgentPolicy.refusesProvider, stricter.offline]

end AgentPolicy

def modelDenial (ctx : RequestContext) : PolicyDecision :=
  .deny ("model '" ++ ctx.model ++ "' not allowed for agent '" ++ ctx.agentName ++ "'")

def offlineDenial (ctx : RequestContext) : PolicyDecision :=
  .deny ("agent '" ++ ctx.agentName ++ "' is offline-only, cannot use cloud provider '" ++
    ctx.provider ++ "'")

section Decisions

variable {config strictConfig : PolicyConfig} {ctx : RequestContext} {policy strict : AgentPolicy}

def AgentPolicy.DeniesAll (policy : AgentPolicy) (tools : List String) : Prop :=
  tools ≠ [] ∧ ∀ tool ∈ tools, policy.permits tool = false

variable (isPolicy : config.agents.lookup ctx.agentName = some policy)

include isPolicy

theorem evaluate_cases :
    (evaluate config ctx = modelDenial ctx ∧ policy.permitsModel ctx.model = false) ∨
      (evaluate config ctx = offlineDenial ctx ∧ policy.permitsModel ctx.model = true ∧
        policy.refusesProvider ctx.provider = true ∧ ¬ policy.DeniesAll ctx.toolsRequested) ∨
      ((evaluate config ctx).toolsAllowed = ctx.toolsRequested.filter policy.permits ∧
        (evaluate config ctx).toolsDenied = ctx.toolsRequested.filter (!policy.permits ·) ∧
        policy.permitsModel ctx.model = true ∧
        ((evaluate config ctx).effect = .deny ↔ policy.DeniesAll ctx.toolsRequested) ∧
        (policy.refusesProvider ctx.provider = true → policy.DeniesAll ctx.toolsRequested)) := by
  have split := policy.splitTools_eq ctx.toolsRequested
  have all : ((policy.splitTools ctx.toolsRequested).2 ≠ [] ∧
      (policy.splitTools ctx.toolsRequested).1 = []) ↔ policy.DeniesAll ctx.toolsRequested := by
    rw [split, AgentPolicy.DeniesAll]
    cases ctx.toolsRequested with
    | nil => simp
    | cons tool tools =>
      simp only [ne_eq, List.filter_eq_nil_iff, reduceCtorEq, not_false_eq_true, true_and,
        Bool.not_eq_true]
      refine and_iff_right_of_imp fun none isNil => ?_
      have permitted := isNil tool List.mem_cons_self
      rw [none tool List.mem_cons_self] at permitted
      cases permitted
  rw [evaluate, isPolicy]
  dsimp only
  by_cases model : policy.permitsModel ctx.model = true
  · rw [if_pos model]
    by_cases deniesAll : policy.DeniesAll ctx.toolsRequested
    · rw [if_pos (all.mpr deniesAll), split]
      exact .inr (.inr ⟨rfl, rfl, model, iff_of_true rfl deniesAll, fun _ => deniesAll⟩)
    · rw [if_neg fun denied => deniesAll (all.mp denied), split]
      by_cases refuses : policy.refusesProvider ctx.provider = true
      · rw [if_pos refuses]
        exact .inr (.inl ⟨rfl, model, refuses, deniesAll⟩)
      · rw [if_neg refuses]
        refine .inr (.inr ?_)
        split_ifs
        · exact ⟨rfl, rfl, model, iff_of_false (by simp) deniesAll, fun yes => absurd yes refuses⟩
        · exact ⟨rfl, rfl, model, iff_of_false (by simp) deniesAll, fun yes => absurd yes refuses⟩
  · rw [if_neg model]
    exact .inl ⟨rfl, by simpa using model⟩

theorem permits_of_mem (tool : String) :
    (tool ∈ (evaluate config ctx).toolsAllowed → policy.permits tool = true) ∧
      (tool ∈ (evaluate config ctx).toolsDenied → policy.permits tool = false) := by
  obtain ⟨decision, _⟩ | ⟨decision, _⟩ | ⟨allowed, denied, _⟩ := evaluate_cases isPolicy
  · rw [decision]
    exact ⟨(absurd · List.not_mem_nil), (absurd · List.not_mem_nil)⟩
  · rw [decision]
    exact ⟨(absurd · List.not_mem_nil), (absurd · List.not_mem_nil)⟩
  · rw [allowed, denied, List.mem_filter, List.mem_filter]
    exact ⟨And.right, fun member => by simpa using member.2⟩

theorem evaluate_deny_iff : (evaluate config ctx).effect = .deny ↔
      policy.permitsModel ctx.model = false ∨ policy.refusesProvider ctx.provider = true ∨
        policy.DeniesAll ctx.toolsRequested := by
  obtain ⟨decision, model⟩ | ⟨decision, _, refuses, _⟩ | ⟨_, _, model, effect, refuses⟩ :=
    evaluate_cases isPolicy
  · exact iff_of_true (by rw [decision]; rfl) (.inl model)
  · exact iff_of_true (by rw [decision]; rfl) (.inr (.inl refuses))
  · rw [effect]
    constructor
    · exact fun deniesAll => .inr (.inr deniesAll)
    · rintro (denied | refused | deniesAll)
      · rw [model] at denied
        cases denied
      · exact refuses refused
      · exact deniesAll

omit isPolicy

theorem AgentPolicy.Stricter.deniesAll (stricter : policy.Stricter strict) {tools : List String}
    (deniesAll : policy.DeniesAll tools) : strict.DeniesAll tools := by
  refine ⟨deniesAll.1, fun tool member => ?_⟩
  rw [Bool.eq_false_iff]
  intro permitted
  have denied := deniesAll.2 tool member
  rw [stricter.permits permitted] at denied
  cases denied

/-- Decisions deny before they allow, and a stricter policy allows no more. -/
theorem evaluate_denies_first (isPolicy : config.agents.lookup ctx.agentName = some policy) :
    (policy.permitsModel ctx.model = true →
      (policy.refusesProvider ctx.provider = true → policy.DeniesAll ctx.toolsRequested) →
      (evaluate config ctx).toolsAllowed = ctx.toolsRequested.filter (policy.Admits ·) ∧
      (evaluate config ctx).toolsDenied = ctx.toolsRequested.filter (¬ policy.Admits ·)) ∧
    (ctx.toolsRequested ≠ [] → (∀ tool ∈ ctx.toolsRequested, ¬ policy.Admits tool) →
      (evaluate config ctx).effect = .deny) ∧
    ∀ (strictConfig : PolicyConfig) (strict : AgentPolicy),
      strictConfig.agents.lookup ctx.agentName = some strict → policy.Stricter strict →
      ((evaluate config ctx).effect = .deny → (evaluate strictConfig ctx).effect = .deny) ∧
      ∀ tool ∈ (evaluate config ctx).toolsDenied,
        tool ∉ (evaluate strictConfig ctx).toolsAllowed := by
  refine ⟨fun permitted offline => ?_, fun requested none => ?_, ?_⟩
  · obtain ⟨_, model⟩ | ⟨_, _, refuses, someTool⟩ | ⟨allowed, denied, _⟩ := evaluate_cases isPolicy
    · rw [permitted] at model
      cases model
    · exact absurd (offline refuses) someTool
    · rw [allowed, denied]
      constructor
      · refine List.filter_congr fun tool _ => ?_
        rw [Bool.eq_iff_iff, decide_eq_true_eq]
        exact AgentPolicy.permits_iff
      · refine List.filter_congr fun tool _ => ?_
        rw [Bool.eq_iff_iff, decide_eq_true_eq, ← AgentPolicy.permits_iff]
        simp
  · refine (evaluate_deny_iff isPolicy).mpr (.inr (.inr ⟨requested, fun tool member => ?_⟩))
    rw [Bool.eq_false_iff]
    exact fun permitted => none tool member (AgentPolicy.permits_iff.mp permitted)
  · intro strictConfig strict isStrict stricter
    constructor
    · rw [evaluate_deny_iff isPolicy, evaluate_deny_iff isStrict, stricter.refusesProvider]
      rintro (model | refuses | deniesAll)
      · left
        rw [Bool.eq_false_iff] at model ⊢
        exact fun permitted => model (stricter.permitsModel permitted)
      · exact .inr (.inl refuses)
      · exact .inr (.inr (stricter.deniesAll deniesAll))
    · intro tool denied allowed
      have notPermitted := (permits_of_mem isPolicy tool).2 denied
      rw [stricter.permits ((permits_of_mem isStrict tool).1 allowed)] at notPermitted
      cases notPermitted

def opsConfig (blocked : List String) : PolicyConfig :=
  ⟨.deny, AList.singleton "ops" ⟨"", ["claude-*"], [], blocked, false⟩⟩

def opsRequest : RequestContext := ⟨"ops", "claude-opus", "anthropic", ["shell_exec", "shell_read"]⟩

theorem opsRequest_stays_denied :
    (evaluate (opsConfig ["shell*"]) opsRequest).toolsDenied = ["shell_exec", "shell_read"] ∧
      (evaluate (opsConfig ["shell*", "web*"]) opsRequest).effect = .deny := by
  obtain ⟨tools, _, monotone⟩ := @evaluate_denies_first (opsConfig ["shell*"]) opsRequest
    ⟨"", ["claude-*"], [], ["shell*"], false⟩ (by decide)
  refine ⟨(tools (by decide) (fun refuses => absurd refuses (by decide))).2.trans (by decide), ?_⟩
  refine (monotone (opsConfig ["shell*", "web*"])
    ⟨"", ["claude-*"], [], ["shell*", "web*"], false⟩ (by decide) ?_).1 (by decide)
  exact ⟨by simp, .inl rfl, .inl rfl, rfl⟩

end Decisions

end QuantaWatch.Policy
