import GatewayRouting.Proofs.Route.AssemblyLaws
import GatewayRouting.Table

/-!
The headers that a table says it looks at are those of its candidates' header templates.
-/

set_option autoImplicit false

namespace GatewayRouting.RouteTable

theorem mem_distinct {seen names : List String} {name : String} :
    name ∈ distinct seen names ↔ name ∈ names ∧ name ∉ seen := by
  induction names generalizing seen with
  | nil => simp [distinct]
  | cons first rest ih =>
    unfold distinct
    by_cases known : first ∈ seen
    · rw [if_pos (by simpa using known), ih, List.mem_cons]
      constructor
      · rintro ⟨inside, fresh⟩
        exact ⟨Or.inr inside, fresh⟩
      · rintro ⟨rfl | inside, fresh⟩
        · exact absurd known fresh
        · exact ⟨inside, fresh⟩
    · rw [if_neg (by simpa using known), List.mem_cons, ih, List.mem_cons, List.mem_cons]
      by_cases same : name = first
      · simp [same, known]
      · simp [same]

theorem nodup_distinct (seen names : List String) : (distinct seen names).Nodup := by
  induction names generalizing seen with
  | nil => exact List.nodup_nil
  | cons first rest ih =>
    unfold distinct
    split
    · exact ih seen
    · refine List.nodup_cons.mpr ⟨?_, ih (first :: seen)⟩
      rw [mem_distinct]
      rintro ⟨_, fresh⟩
      exact fresh List.mem_cons_self

theorem mem_headerNames {candidates : List Candidate} {name : String} :
    name ∈ headerNames candidates ↔
      ∃ c ∈ candidates, ∃ t ∈ c.upstream.headerTemplates, t.name = name := by
  unfold headerNames
  rw [mem_distinct]
  simp only [List.mem_flatMap, List.mem_map, List.not_mem_nil, not_false_eq_true, and_true]

/-- The table knows the headers of all its candidates. -/
def KnowsHeaders (t : RouteTable) : Prop := t.routingHeaders = headerNames t.candidates

theorem empty_knowsHeaders : empty.KnowsHeaders := rfl

theorem ofConfiguration_knowsHeaders {config : Configuration} {table : RouteTable}
    (made : (ofConfiguration config).result = .ok table) : table.KnowsHeaders := by
  unfold ofConfiguration at made
  simp only [Assembly.result_bind_eq_ok, Assembly.result_pure] at made
  obtain ⟨_, _, _, _, _, _, _, _, _, _, made⟩ := made
  cases made
  rfl

end GatewayRouting.RouteTable
