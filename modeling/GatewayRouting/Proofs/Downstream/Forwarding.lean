import GatewayRouting.Proofs.Downstream.Filling
import GatewayRouting.Proofs.Downstream.Parts
import GatewayRouting.Proofs.Query.Parameters

/-!
Which parameters of a request are sent on. A captured value belongs to one parameter, the first with its key;
what is held back are all parameters with that key. The two are the same where a captured key is not repeated.
-/

set_option autoImplicit false

namespace GatewayRouting

theorem Parameter.hasKey_congr {p : Parameter} {a b : String} (own : p.hasKey a = true)
    (also : p.hasKey b = true) (other : Parameter) : other.hasKey a = other.hasKey b := by
  have sameKey : Text.lowerAscii a = Text.lowerAscii b :=
    (Text.sameIgnoringCase_iff.mp own).symm.trans (Text.sameIgnoringCase_iff.mp also)
  rw [Bool.eq_iff_iff]
  unfold hasKey
  rw [Text.sameIgnoringCase_iff, Text.sameIgnoringCase_iff, sameKey]

namespace QueryTemplate

theorem captureDemands_cons_eq_some {parameters : List Parameter} {d : Demand} {rest : List Demand}
    {found : List Capture} :
    captureDemands parameters (d :: rest) = some found ↔
      ∃ first others, captureDemand parameters d = some first ∧
        captureDemands parameters rest = some others ∧ found = first ++ others := by
  rw [captureDemands]
  cases captureDemand parameters d <;> cases captureDemands parameters rest <;> simp [eq_comm]

/-- Each demand finds its own captures. -/
theorem captureDemand_of_mem {parameters : List Parameter} {list : List Demand}
    {found : List Capture} (captured : captureDemands parameters list = some found) {d : Demand}
    (listed : d ∈ list) : ∃ own, captureDemand parameters d = some own ∧ own ⊆ found := by
  induction list generalizing found with
  | nil => cases listed
  | cons first rest ih =>
    obtain ⟨own, others, known, later, rfl⟩ := captureDemands_cons_eq_some.mp captured
    rcases List.mem_cons.mp listed with rfl | inside
    · exact ⟨own, known, List.subset_append_left _ _⟩
    · obtain ⟨found, known, within⟩ := ih later inside
      exact ⟨found, known, List.Subset.trans within (List.subset_append_right _ _)⟩

/-- A placeholder captures the value at the first position that has its key. -/
theorem captureDemand_of_placeholder {parameters : List Parameter} {d : Demand} {name : String}
    (named : d.value = .placeholder name) {i : Nat}
    (first : parameters.findIdx? (·.hasKey d.key) = some i) :
    ∃ p, parameters[i]? = some p ∧ captureDemand parameters d = some [⟨name, p.value⟩] := by
  obtain ⟨bound, own, earlier⟩ := List.findIdx?_eq_some_iff_getElem.mp first
  refine ⟨parameters[i], List.getElem?_eq_getElem bound, ?_⟩
  have found : parameters.find? (·.hasKey d.key) = some parameters[i] := by
    rw [List.find?_eq_some_iff_getElem]
    exact ⟨own, i, bound, rfl, fun j below => by simpa using earlier j below⟩
  simp only [captureDemand, named, List.head?_filter, found, Option.map_some]

end QueryTemplate

namespace DownstreamUrl

variable {names : List (List Char)} {list : List Demand} {parameters : List Parameter}

/-- Whether the downstream template uses what a demand captures. -/
def isUsed (names : List (List Char)) (d : Demand) : Bool :=
  match d.value with
  | .placeholder name => uses names name
  | .literal _ => false

/-- The position of the parameter whose value a demand captures for use downstream. -/
def takenBy (names : List (List Char)) (parameters : List Parameter) (d : Demand) : Option Nat :=
  if isUsed names d then parameters.findIdx? (·.hasKey d.key) else none

/-- The positions of the parameters whose very values are used downstream. -/
def taken (names : List (List Char)) (list : List Demand) (parameters : List Parameter) : List Nat :=
  list.filterMap (takenBy names parameters)

/-- The parameters whose values are not used downstream. -/
def leftOver (names : List (List Char)) (list : List Demand) (parameters : List Parameter) :
    List Parameter :=
  (parameters.zipIdx.filter fun e => !(taken names list parameters).contains e.2).map Prod.fst

/-- A key stands in a query once at most. -/
def Unrepeated (key : String) (parameters : List Parameter) : Prop :=
  parameters.Pairwise fun p q => ¬(p.hasKey key = true ∧ q.hasKey key = true)

theorem isUsed_iff {d : Demand} :
    isUsed names d = true ↔ ∃ name, d.value = .placeholder name ∧ uses names name = true := by
  unfold isUsed
  split
  · rename_i name named
    simp [named]
  · rename_i text literal
    simp [literal]

theorem takenBy_eq_some_iff {d : Demand} {i : Nat} :
    takenBy names parameters d = some i ↔
      isUsed names d = true ∧ parameters.findIdx? (·.hasKey d.key) = some i := by
  unfold takenBy
  split <;> simp_all

theorem consumes_iff {p : Parameter} {d : Demand} :
    consumes names p d = true ↔ isUsed names d = true ∧ p.hasKey d.key = true := by
  unfold consumes isUsed
  cases d.value <;> simp

theorem mem_taken_iff {i : Nat} :
    i ∈ taken names list parameters ↔ ∃ d ∈ list, takenBy names parameters d = some i :=
  List.mem_filterMap

theorem consumed_of_mem_taken {p : Parameter} {i : Nat} (inside : i ∈ taken names list parameters)
    (there : parameters[i]? = some p) : list.any (consumes names p) = true := by
  obtain ⟨d, listed, takes⟩ := mem_taken_iff.mp inside
  obtain ⟨used, first⟩ := takenBy_eq_some_iff.mp takes
  obtain ⟨bound, own, _⟩ := List.findIdx?_eq_some_iff_getElem.mp first
  rw [List.getElem?_eq_getElem bound, Option.some.injEq] at there
  subst there
  exact List.any_eq_true.mpr ⟨d, listed, consumes_iff.mpr ⟨used, own⟩⟩

theorem mem_of_mem_forwarded {query : Option QueryTemplate} {p : Parameter}
    (sent : p ∈ forwarded names query parameters) : p ∈ parameters := by
  unfold forwarded at sent
  split at sent
  · split at sent
    · cases sent
    · exact sent
  · exact (List.mem_filter.mp sent).1
  · exact sent

/-- What is sent on is left over, with those taken out that have a captured key. -/
theorem forwarded_eq_filter_leftOver :
    forwarded names (some (.demands list)) parameters =
      ((parameters.zipIdx.filter fun e => !(taken names list parameters).contains e.2).filter
        fun e => !list.any (consumes names e.1)).map Prod.fst := by
  rw [List.filter_filter, forwarded]
  -- Both lists are picked from the numbered parameters: equal ones are told apart by their positions.
  conv_lhs => rw [← List.zipIdx_map_fst 0 parameters, List.filter_map]
  congr 1
  apply List.filter_congr
  rintro ⟨p, i⟩ inside
  have there : parameters[i]? = some p := List.mk_mem_zipIdx_iff_getElem?.mp inside
  cases held : list.any (consumes names p) with
  | true => simp [held]
  | false =>
    have free : i ∉ taken names list parameters := by
      intro inTaken
      rw [consumed_of_mem_taken inTaken there] at held
      cases held
    simp [held, free]

theorem forwarded_sublist_leftOver :
    (forwarded names (some (.demands list)) parameters).Sublist (leftOver names list parameters) := by
  rw [forwarded_eq_filter_leftOver]
  exact List.filter_sublist.map Prod.fst

/-- All that is left over is sent on when only the parameters taken have captured keys. -/
theorem forwarded_eq_leftOver_iff :
    forwarded names (some (.demands list)) parameters = leftOver names list parameters ↔
      ∀ p i, parameters[i]? = some p → list.any (consumes names p) = true →
        i ∈ taken names list parameters := by
  rw [forwarded_eq_filter_leftOver, leftOver]
  constructor
  · intro same p i there held
    have sizes := congrArg List.length same
    rw [List.length_map, List.length_map, List.length_filter_eq_length_iff] at sizes
    by_contra free
    have kept := sizes (p, i) (List.mem_filter.mpr
      ⟨List.mk_mem_zipIdx_iff_getElem?.mpr there, by simpa using free⟩)
    simp [held] at kept
  · intro only
    congr 1
    rw [List.filter_eq_self]
    rintro ⟨p, i⟩ inside
    obtain ⟨there, free⟩ := List.mem_filter.mp inside
    cases held : list.any (consumes names p) with
    | false => rfl
    | true => simp [only p i (List.mk_mem_zipIdx_iff_getElem?.mp there) held] at free

theorem mem_taken_of_unrepeated {d : Demand} (listed : d ∈ list) {p : Parameter} {i : Nat}
    (unrepeated : Unrepeated d.key parameters) (there : parameters[i]? = some p)
    (held : consumes names p d = true) : i ∈ taken names list parameters := by
  obtain ⟨used, own⟩ := consumes_iff.mp held
  obtain ⟨bound, rfl⟩ := List.getElem?_eq_some_iff.mp there
  cases first : parameters.findIdx? (·.hasKey d.key) with
  | none =>
    rw [List.findIdx?_eq_none_iff] at first
    rw [first _ (List.getElem_mem bound)] at own
    cases own
  | some j =>
    obtain ⟨firstBound, firstOwn, earlier⟩ := List.findIdx?_eq_some_iff_getElem.mp first
    have same : j = i := by
      rcases Nat.lt_trichotomy j i with below | same | above
      · exact absurd ⟨firstOwn, own⟩ (List.pairwise_iff_getElem.mp unrepeated j i firstBound bound below)
      · exact same
      · exact absurd own (earlier i above)
    subst same
    exact mem_taken_iff.mpr ⟨d, listed, takenBy_eq_some_iff.mpr ⟨used, first⟩⟩

/-- Two positions with a captured key are never both taken, whatever demands there are for the key. -/
theorem unrepeated_of_taken {d : Demand} (listed : d ∈ list) (used : isUsed names d = true)
    (only : ∀ p i, parameters[i]? = some p → list.any (consumes names p) = true →
      i ∈ taken names list parameters) : Unrepeated d.key parameters := by
  rw [Unrepeated, List.pairwise_iff_getElem]
  rintro i j bound later below ⟨own, also⟩
  have held : list.any (consumes names parameters[j]) = true :=
    List.any_eq_true.mpr ⟨d, listed, consumes_iff.mpr ⟨used, also⟩⟩
  obtain ⟨other, _, takes⟩ := mem_taken_iff.mp (only _ j (List.getElem?_eq_getElem later) held)
  obtain ⟨_, first⟩ := takenBy_eq_some_iff.mp takes
  obtain ⟨_, otherOwn, earlier⟩ := List.findIdx?_eq_some_iff_getElem.mp first
  apply earlier i below
  rw [Parameter.hasKey_congr otherOwn also]
  exact own

theorem forwarded_eq_leftOver_iff_unrepeated :
    forwarded names (some (.demands list)) parameters = leftOver names list parameters ↔
      ∀ d ∈ list, isUsed names d = true → Unrepeated d.key parameters := by
  rw [forwarded_eq_leftOver_iff]
  constructor
  · intro only d listed used
    exact unrepeated_of_taken listed used only
  · intro unrepeated p i there held
    obtain ⟨d, listed, consumed⟩ := List.any_eq_true.mp held
    have used := (consumes_iff.mp consumed).1
    exact mem_taken_of_unrepeated listed (unrepeated d listed used) there consumed

/-- A list and a part of it are written alike, without what is written as nothing, only where they are the
same and all of it is written as something. -/
theorem filter_map_eq_map_iff {α β : Type} {f : α → β} {ok : β → Bool} {part whole : List α}
    (within : part.Sublist whole) :
    (part.map f).filter ok = whole.map f ↔ part = whole ∧ ∀ a ∈ part, ok (f a) = true := by
  constructor
  · intro same
    have sizes := congrArg List.length same
    have shorter := List.length_filter_le ok (part.map f)
    rw [List.length_map] at sizes shorter
    have all : part = whole := within.eq_of_length (by have := within.length_le; omega)
    subst all
    refine ⟨rfl, fun a inside => ?_⟩
    exact List.filter_eq_self.mp same (f a) (List.mem_map_of_mem inside)
  · rintro ⟨rfl, all⟩
    rw [List.filter_eq_self, List.forall_mem_map]
    exact all

theorem nameless_mem_forwarded_iff (keyed : ∀ d ∈ list, d.key ≠ "") :
    ⟨"", ""⟩ ∈ forwarded names (some (.demands list)) parameters ↔ ⟨"", ""⟩ ∈ parameters := by
  rw [forwarded, List.mem_filter]
  constructor
  · exact And.left
  · intro inside
    refine ⟨inside, ?_⟩
    cases held : list.any (consumes names ⟨"", ""⟩) with
    | false => rfl
    | true =>
      obtain ⟨d, listed, consumed⟩ := List.any_eq_true.mp held
      have own := (consumes_iff.mp consumed).2
      have empty : d.key.toList.map Char.toLower = [] := by
        have decoded : (⟨"", ""⟩ : Parameter).decodedKey.toList = [] := by decide +kernel
        simpa [Parameter.hasKey, Text.sameIgnoringCase, Text.sameAscii, decoded] using own
      exact absurd (by simpa using empty) (keyed d listed)

/-- What is sent on is written as all that is left over exactly when no key captured for use downstream is
repeated, and no parameter is a bare `=`. -/
theorem forwarded_texts_iff (keyed : ∀ d ∈ list, d.key ≠ "") :
    ((forwarded names (some (.demands list)) parameters).map Parameter.toText).filter (!·.isEmpty) =
        (leftOver names list parameters).map Parameter.toText ↔
      (∀ d ∈ list, isUsed names d = true → Unrepeated d.key parameters) ∧
        ⟨"", ""⟩ ∉ parameters := by
  rw [filter_map_eq_map_iff forwarded_sublist_leftOver, forwarded_eq_leftOver_iff_unrepeated,
    ← nameless_mem_forwarded_iff keyed]
  apply and_congr_right
  intro _
  constructor
  · intro filled nameless
    have written := filled _ nameless
    rw [Parameter.toText_eq_nil_iff.mpr rfl] at written
    cases written
  · rintro absent p inside
    have written : p.toText ≠ [] := by
      intro nothing
      rw [Parameter.toText_eq_nil_iff.mp nothing] at inside
      exact absent inside
    simpa using written

theorem segments_joined {texts : List (List Char)} (absent : ∀ text ∈ texts, '&' ∉ text) :
    Query.segments ((joined texts).getD "").toList = texts.filter (!·.isEmpty) := by
  unfold joined
  split
  · rename_i empty
    rw [List.isEmpty_iff.mp empty]
    rfl
  · rw [Option.getD_some, String.toList_ofList, Query.segments_intercalate absent]

theorem absent_of_mem_produced {template : Option (List Char)} {captures : List Capture}
    {text : List Char} (inside : text ∈ produced template captures) : '&' ∉ text := by
  cases template with
  | none => cases inside
  | some query => exact Query.absent_of_mem_segments inside

theorem filter_produced (template : Option (List Char)) (captures : List Capture) :
    (produced template captures).filter (!·.isEmpty) = produced template captures := by
  cases template with
  | none => rfl
  | some query => exact Query.filter_segments _

/-- The segments of the downstream query are what the template makes, then the parameters that are sent on. -/
theorem segments_query_build {downstream : String} {t : UpstreamTemplate} {captures : List Capture}
    {path : String} {query : Option String} :
    Query.segments ((build downstream t captures path query).query.getD "").toList =
      produced ((UpstreamTemplate.splitQuery downstream).2.map String.toList) captures ++
        ((forwarded (templateNames downstream.toList) t.query
          (Query.parameters (query.getD ""))).map Parameter.toText).filter (!·.isEmpty) := by
  rw [query_build, segments_joined, List.filter_append, filter_produced]
  intro text inside
  rcases List.mem_append.mp inside with made | sent
  · exact absent_of_mem_produced made
  · obtain ⟨p, listed, rfl⟩ := List.mem_map.mp sent
    exact Query.absent_of_toText (mem_of_mem_forwarded listed)

/-- What is taken was captured under a name that the downstream template uses. -/
theorem exists_capture_of_taken {found : List Capture}
    (captured : QueryTemplate.captureDemands parameters list = some found) {i : Nat}
    (inside : i ∈ taken names list parameters) :
    ∃ p, parameters[i]? = some p ∧ ∃ c ∈ found, uses names c.name = true ∧ c.value = p.value := by
  obtain ⟨d, listed, takes⟩ := mem_taken_iff.mp inside
  obtain ⟨isUsed, first⟩ := takenBy_eq_some_iff.mp takes
  obtain ⟨name, named, used⟩ := isUsed_iff.mp isUsed
  obtain ⟨p, there, own⟩ := QueryTemplate.captureDemand_of_placeholder named first
  obtain ⟨captures, known, within⟩ := QueryTemplate.captureDemand_of_mem captured listed
  cases own.symm.trans known
  exact ⟨p, there, ⟨name, p.value⟩, within List.mem_cons_self, used, rfl⟩

/-- The parameters whose very values are captured for use downstream are held back. All others follow what
the downstream template makes, in the order of the request, exactly when no key that is captured for use
downstream is repeated and no parameter is a bare `=`, which is written as nothing. -/
theorem segments_build_eq_leftOver_iff {template : String} {caseSensitive : Bool}
    {t : UpstreamTemplate} {path : String} {query : Option String} {found : List Capture}
    (accepted : UpstreamTemplate.compile template caseSensitive = .ok t)
    (demands : t.query = some (.demands list)) (matched : t.captures path query = some found)
    (downstream : String) (more : List Capture) :
    let names := templateNames downstream.toList
    let parameters := Query.parameters (query.getD "")
    (∀ i ∈ taken names list parameters, ∃ p, parameters[i]? = some p ∧
      ∃ c ∈ found, uses names c.name = true ∧ c.value = p.value) ∧
    (Query.segments ((build downstream t (found ++ more) path query).query.getD "").toList =
        produced ((UpstreamTemplate.splitQuery downstream).2.map String.toList) (found ++ more) ++
          (leftOver names list parameters).map Parameter.toText ↔
      (∀ d ∈ list, isUsed names d = true → Unrepeated d.key parameters) ∧
        ⟨"", ""⟩ ∉ parameters) := by
  intro names parameters
  obtain ⟨ofPath, ofQuery, _, onQuery, rfl⟩ := UpstreamTemplate.captures_eq_some_iff.mp matched
  rw [UpstreamTemplate.captureQuery, demands] at onQuery
  constructor
  · intro i inside
    obtain ⟨p, there, c, captured, used, same⟩ := exists_capture_of_taken onQuery inside
    exact ⟨p, there, c, List.mem_append_right ofPath captured, used, same⟩
  · rw [segments_query_build, List.append_cancel_left_eq, demands]
    exact forwarded_texts_iff fun _ => UpstreamTemplate.key_ne_of_compile accepted demands

instance (key : String) (parameters : List Parameter) : Decidable (Unrepeated key parameters) := by
  unfold Unrepeated
  infer_instance

/-- A key may be escaped, and a value that is captured but not used is sent on. -/
theorem segments_build_eq_leftOver_of_escapedKey :
    ∃ t, UpstreamTemplate.compile "/u?a=\x7ba\x7d&b=\x7bb\x7d" false = .ok t ∧
      Query.segments ((build "/d/\x7bA\x7d?x=1" t [⟨"a", "1"⟩, ⟨"b", "2"⟩] "/u"
        (some "c=3&%61=1&b=2")).query.getD "").toList =
        ["x=1".toList, "c=3".toList, "b=2".toList] := by
  have evaluated : (UpstreamTemplate.compile "/u?a=\x7ba\x7d&b=\x7bb\x7d" false).map (fun t =>
      (t.query, t.captures "/u" (some "c=3&%61=1&b=2"))) =
      .ok (some (.demands [⟨"a", .placeholder "a"⟩, ⟨"b", .placeholder "b"⟩]),
        some [⟨"a", "1"⟩, ⟨"b", "2"⟩]) := by
    decide +kernel
  obtain ⟨t, accepted, same⟩ := map_eq_ok.mp evaluated
  obtain ⟨demands, matched⟩ := Prod.mk.inj same
  have sent := (segments_build_eq_leftOver_iff accepted demands matched "/d/\x7bA\x7d?x=1" []).2.mpr
    ⟨by decide +kernel, by decide +kernel⟩
  rw [List.append_nil] at sent
  exact ⟨t, accepted, sent.trans (by decide +kernel)⟩

/-- The second value of a captured key is lost, though nothing uses it. -/
theorem query_build_of_repeatedKey :
    ∃ t list, UpstreamTemplate.compile "/x?a=\x7ba\x7d" false = .ok t ∧ t.query = some (.demands list) ∧
      t.captures "/x" (some "a=1&a=2") = some [⟨"a", "1"⟩] ∧
      leftOver (templateNames "/y/\x7ba\x7d".toList) list (Query.parameters "a=1&a=2") = [⟨"a", "2"⟩] ∧
      build "/y/\x7ba\x7d" t [⟨"a", "1"⟩] "/x" (some "a=1&a=2") = ⟨"/y/1", none⟩ := by
  have evaluated : (UpstreamTemplate.compile "/x?a=\x7ba\x7d" false).map (fun t =>
      (t.query, t.captures "/x" (some "a=1&a=2"),
        build "/y/\x7ba\x7d" t [⟨"a", "1"⟩] "/x" (some "a=1&a=2"))) =
      .ok (some (.demands [⟨"a", .placeholder "a"⟩]), some [⟨"a", "1"⟩], ⟨"/y/1", none⟩) := by
    decide +kernel
  obtain ⟨t, accepted, same⟩ := map_eq_ok.mp evaluated
  obtain ⟨demands, matched, made⟩ : _ ∧ _ ∧ _ := by simpa only [Prod.mk.injEq] using same
  exact ⟨t, _, accepted, demands, matched, by decide +kernel, made⟩

end DownstreamUrl

end GatewayRouting
