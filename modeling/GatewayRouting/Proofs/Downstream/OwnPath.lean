import GatewayRouting.Downstream.Url
import GatewayRouting.Proofs.Downstream.Filling
import GatewayRouting.Proofs.Downstream.Parts

/-!
A template as its own downstream template: the values captured from a path are put back where they came
from, and the path comes out again, but for a slash at its end.
-/

set_option autoImplicit false

namespace GatewayRouting

/-- Texts that are the same between the values up to case, unless it counts, and have the values, in their
order, as they are. -/
inductive Alike (caseSensitive : Bool) : List (List Char) → List Char → List Char → Prop
  | done : Alike caseSensitive [] [] []
  | literal {text part a b : List Char} {values : List (List Char)} :
      Text.SameText caseSensitive text part → Alike caseSensitive values a b →
      Alike caseSensitive values (text ++ a) (part ++ b)
  | value {value a b : List Char} {values : List (List Char)} :
      Alike caseSensitive values a b → Alike caseSensitive (value :: values) (value ++ a) (value ++ b)

namespace Alike

variable {caseSensitive : Bool} {values : List (List Char)} {a b : List Char}

theorem lastLiteral {text part : List Char} (same : Text.SameText caseSensitive text part) :
    Alike caseSensitive [] text part := by
  simpa using Alike.literal same .done

/-- Nothing comes after the literal, as the value of a placeholder. -/
theorem literalAndEmpty {text part : List Char} (same : Text.SameText caseSensitive text part) :
    Alike caseSensitive [[]] text part := by
  have empty : Alike caseSensitive [[]] ([] ++ []) ([] ++ []) := .value .done
  simpa using Alike.literal same empty

theorem sameText (alike : Alike caseSensitive values a b) : Text.SameText caseSensitive a b := by
  induction alike with
  | done => exact .nil
  | literal same _ ih => exact same.append ih
  | value _ ih => exact (Text.SameText.refl _).append ih

theorem concat_slash (alike : Alike caseSensitive values a b) :
    Alike caseSensitive values (a ++ ['/']) (b ++ ['/']) := by
  induction alike with
  | done => exact lastLiteral (.refl ['/'])
  | literal same _ ih =>
    rw [List.append_assoc, List.append_assoc]
    exact .literal same ih
  | value _ ih =>
    rw [List.append_assoc, List.append_assoc]
    exact .value ih

theorem getLast?_of_slash (alike : Alike caseSensitive values a b) (slash : a.getLast? = some '/') :
    b.getLast? = some '/' := by
  have final : UpstreamTemplate.endsInSlash a = true := by simp [UpstreamTemplate.endsInSlash, slash]
  obtain ⟨front, rfl, _⟩ := (UpstreamTemplate.sameText_of_endsInSlash final).mp alike.sameText
  exact List.getLast?_concat

end Alike

/-- Two texts are related as they stand, or after a slash is taken from the end of one of them. -/
inductive UpToSlash (R : List Char → List Char → Prop) : List Char → List Char → Prop
  | same {a b : List Char} : R a b → UpToSlash R a b
  | extra {a b : List Char} : R a b → UpToSlash R (a ++ ['/']) b
  | missing {a b : List Char} : R a b → UpToSlash R a (b ++ ['/'])

namespace UpToSlash

variable {caseSensitive : Bool} {values : List (List Char)} {a b : List Char}

theorem imp {R S : List Char → List Char → Prop} (weaker : ∀ a b, R a b → S a b)
    (upTo : UpToSlash R a b) : UpToSlash S a b := by
  cases upTo with
  | same holds => exact .same (weaker _ _ holds)
  | extra holds => exact .extra (weaker _ _ holds)
  | missing holds => exact .missing (weaker _ _ holds)

/-- What stands before both texts does not matter. -/
theorem prepend {R S : List Char → List Char → Prop} {front start : List Char}
    (grows : ∀ a b, R a b → S (front ++ a) (start ++ b)) (upTo : UpToSlash R a b) :
    UpToSlash S (front ++ a) (start ++ b) := by
  cases upTo with
  | same holds => exact .same (grows _ _ holds)
  | extra holds =>
    rw [← List.append_assoc]
    exact .extra (grows _ _ holds)
  | missing holds =>
    rw [← List.append_assoc]
    exact .missing (grows _ _ holds)

/-- A slash for nothing at all. -/
theorem filled (upTo : UpToSlash (Alike caseSensitive values) a b) :
    UpToSlash (Alike caseSensitive values) (if a.isEmpty then ['/'] else a) b := by
  cases a with
  | cons c cs => exact upTo
  | nil =>
    generalize nothing : ([] : List Char) = front at upTo
    cases upTo with
    | same alike =>
      subst nothing
      exact .extra alike
    | extra _ => exact absurd nothing.symm (List.concat_ne_nil _ _)
    | missing alike =>
      subst nothing
      exact .same alike.concat_slash

/-- No slash at the end of the first text unless the second one has it. -/
theorem trimmed (upTo : UpToSlash (Alike caseSensitive values) a b) :
    UpToSlash (Alike caseSensitive values)
      (if 1 < a.length && a.getLast? == some '/' && b.getLast? != some '/' then a.dropLast else a) b := by
  split
  · rename_i ends
    simp only [Bool.and_eq_true, decide_eq_true_eq, beq_iff_eq, bne_iff_ne] at ends
    obtain ⟨⟨_, slash⟩, apart⟩ := ends
    cases upTo with
    | same alike => exact absurd (alike.getLast?_of_slash slash) apart
    | extra alike =>
      rw [List.dropLast_concat]
      exact .same alike
    | missing _ => exact absurd List.getLast?_concat apart
  · exact upTo

end UpToSlash

namespace UpstreamTemplate

variable {caseSensitive : Bool}

/-- The values of a split, put back into its tokens, make the text that was split. -/
theorem Splits.upToSlash_written {tokens : List Token} {text : List Char} {values : List (List Char)}
    (splits : Splits caseSensitive tokens text values) :
    UpToSlash (Alike caseSensitive values) (written tokens values) text := by
  induction splits with
  | done => exact .same .done
  | @literal text part rest tokens values same others ih =>
    cases taken : endsEmpty tokens values && endsInSlash text with
    | false =>
      rw [written_literal_of_more taken]
      exact ih.prepend fun _ _ => .literal same
    | true =>
      rw [Bool.and_eq_true] at taken
      obtain ⟨empty, final⟩ := taken
      obtain ⟨⟨name, rfl⟩, rfl⟩ := endsEmpty_iff.mp empty
      obtain ⟨front, rfl, sameFront⟩ := (sameText_of_endsInSlash final).mp same
      have nothing : rest = [] := by
        cases others with
        | placeholder more _ _ _ => exact absurd rfl more
        | lastPlaceholder _ => rfl
      rw [written_tail_of_empty final, nothing, List.append_nil]
      exact .missing (.literalAndEmpty sameFront)
  | placeholder _ _ _ _ ih => exact ih.prepend fun _ _ => .value
  | lastPlaceholder _ => exact .same (by simpa [written] using Alike.value .done)
  | @extraSlash text part final same =>
    have whole : written [.literal text] [] = text := by simp [written, keptLiteral, endsEmpty]
    rw [whole]
    exact .missing (.lastLiteral same)
  | @missingSlash text part final same =>
    have whole : written [.literal text] [] = text.dropLast ++ ['/'] := by
      simp [written, keptLiteral, endsEmpty, dropLast_append_slash final]
    rw [whole]
    exact .extra (.lastLiteral same)
  | missingSlashOfTail final same =>
    rw [written_tail_of_empty final]
    exact .same (.literalAndEmpty same)

end UpstreamTemplate

namespace DownstreamUrl

open UpstreamTemplate

theorem pathFrom_upToSlash {caseSensitive : Bool} {template : List Char} {captures : List Capture}
    {values : List (List Char)} {path : String}
    (upTo : UpToSlash (Alike caseSensitive values) (substitute template captures) path.toList) :
    UpToSlash (Alike caseSensitive values) (pathFrom template captures path) path.toList :=
  upTo.filled.trimmed

theorem path_build_of_ownPath (template : String) (t : UpstreamTemplate) (captures : List Capture)
    (path : String) (query : Option String) :
    (build (splitQuery template).1 t captures path query).path =
      String.ofList (pathFrom (splitQuery template).1.toList captures path) := by
  have own : (splitQuery (splitQuery template).1).1 = (splitQuery template).1 := by
    rw [splitQuery, Text.splitOnce_eq_none_iff.mpr (question_not_mem_splitQuery template)]
  rw [path_build, own]

/-- A path that a template takes is rewritten by the path part of the template itself to that path, but for
one slash at its end. The values in it stand as they were captured, whatever captures follow them. -/
theorem build_of_ownPath {template : String} {caseSensitive : Bool} {t : UpstreamTemplate}
    {path : String} {query : Option String} {found : List Capture}
    (accepted : compile template caseSensitive = .ok t)
    (tight : ∀ inside ∈ templateNames (splitQuery template).1.toList, Text.trim inside = inside)
    (matched : t.captures path query = some found) (more : List Capture) :
    ∃ ofPath, t.capturePath path = some ofPath ∧ ofPath <+: found ∧
      UpToSlash (Alike caseSensitive (ofPath.map fun c => c.value.toList))
        (build (splitQuery template).1 t (found ++ more) path query).path.toList path.toList ∧
      (caseSensitive = true → UpToSlash (· = ·)
        (build (splitQuery template).1 t (found ++ more) path query).path.toList path.toList) := by
  obtain ⟨_, tokens, queryTemplate, read, _, distinct, rfl⟩ := compile_eq_ok_iff.mp accepted
  obtain ⟨ofPath, ofQuery, onPath, _, rfl⟩ := captures_eq_some_iff.mp matched
  obtain ⟨values, split, _, rfl⟩ := capturePath_ofTokens_eq_some_iff.mp onPath
  have splits := split.splits
  have different := nodup_of_requireDistinct_append distinct
  have assigns : Assigns (assigned (Token.names tokens) values ++ (ofQuery ++ more))
      (Token.names tokens) values := assigns_of_distinct different splits.length_values _
  have upTo : UpToSlash (Alike caseSensitive values)
      (build (splitQuery template).1 (ofTokens template caseSensitive tokens queryTemplate)
        (assigned (Token.names tokens) values ++ ofQuery ++ more) path query).path.toList
      path.toList := by
    rw [path_build_of_ownPath, String.toList_ofList, List.append_assoc]
    apply pathFrom_upToSlash
    rw [substitute_eq_written read tight splits.fits assigns]
    exact splits.upToSlash_written
  refine ⟨_, onPath, List.prefix_append _ _, ?_, ?_⟩
  · rwa [values_assigned splits.length_values]
  · rintro rfl
    exact upTo.imp fun _ _ alike => alike.sameText.eq_of_sensitive

/-- The slash before an empty tail is left out, and the literal is written as the template has it. -/
theorem build_of_ownPath_of_emptyTail :
    ∃ t, compile "/Api/\x7bx\x7d/\x7brest\x7d?v=\x7bv\x7d" false = .ok t ∧
      (build "/Api/\x7bx\x7d/\x7brest\x7d" t [⟨"x", "\x7bq"⟩, ⟨"rest", ""⟩, ⟨"v", "1"⟩] "/API/\x7bq/"
        (some "v=1")).path = "/Api/\x7bq" ∧
      UpToSlash (Alike false ["\x7bq".toList, []]) "/Api/\x7bq".toList "/API/\x7bq/".toList := by
  have evaluated : (compile "/Api/\x7bx\x7d/\x7brest\x7d?v=\x7bv\x7d" false).map (fun t =>
      (t.capturePath "/API/\x7bq/", t.captureQuery (some "v=1"),
        (build "/Api/\x7bx\x7d/\x7brest\x7d" t [⟨"x", "\x7bq"⟩, ⟨"rest", ""⟩, ⟨"v", "1"⟩] "/API/\x7bq/"
          (some "v=1")).path)) =
      .ok (some [⟨"x", "\x7bq"⟩, ⟨"rest", ""⟩], some [⟨"v", "1"⟩], "/Api/\x7bq") := by
    decide +kernel
  obtain ⟨t, accepted, same⟩ := map_eq_ok.mp evaluated
  obtain ⟨known, onQuery, made⟩ : _ ∧ _ ∧ _ := by simpa only [Prod.mk.injEq] using same
  have matched : t.captures "/API/\x7bq/" (some "v=1") =
      some [⟨"x", "\x7bq"⟩, ⟨"rest", ""⟩, ⟨"v", "1"⟩] :=
    captures_eq_some_iff.mpr ⟨_, _, known, onQuery, rfl⟩
  have own : (splitQuery "/Api/\x7bx\x7d/\x7brest\x7d?v=\x7bv\x7d").1 = "/Api/\x7bx\x7d/\x7brest\x7d" := by
    decide +kernel
  obtain ⟨ofPath, onPath, _, upTo, _⟩ := build_of_ownPath accepted (by decide +kernel) matched []
  cases known.symm.trans onPath
  rw [List.append_nil, own, made] at upTo
  exact ⟨t, accepted, made, upTo⟩

end DownstreamUrl

end GatewayRouting
