import GatewayRouting.Proofs.Route.Filters
import GatewayRouting.Proofs.Text.AsciiCase
import GatewayRouting.Proofs.Text.Cutting
import GatewayRouting.Proofs.Text.Decimal
import GatewayRouting.Proofs.Text.Trimming
import Mathlib.Data.Finset.Dedup
import Mathlib.Data.List.Sort

/-!
When two declared routes have one identity key. The key is joined of fields that may hold the separators and the
markers for missing texts themselves; where two keys are laid out alike, it tells all that differs apart.
-/

set_option autoImplicit false

namespace GatewayRouting

namespace IdentityKey

/-- The text, unless it is missing or empty. -/
def given? (text : Option String) : Option String := text.filter (· ≠ "")

/-! Methods in a key. -/

theorem mem_putText_iff {text t : String} {sorted : List String} :
    t ∈ putText text sorted ↔ t = text ∨ t ∈ sorted := by
  induction sorted with
  | nil => simp [putText]
  | cons first rest ih =>
    rw [putText]
    split
    · rw [List.mem_cons]
    · split
      · rename_i same
        rw [same, List.mem_cons, ← or_assoc, or_self]
      · rw [List.mem_cons, ih, List.mem_cons, or_left_comm]

theorem pairwise_putText {text : String} {sorted : List String} (ordered : sorted.Pairwise (· < ·)) :
    (putText text sorted).Pairwise (· < ·) := by
  induction sorted with
  | nil => simp [putText]
  | cons first rest ih =>
    obtain ⟨below, later⟩ := List.pairwise_cons.mp ordered
    rw [putText]
    split
    · rename_i before
      refine List.pairwise_cons.mpr ⟨?_, ordered⟩
      intro t inside
      rcases List.mem_cons.mp inside with rfl | inside
      · exact before
      · exact String.lt_trans before (below t inside)
    · split
      · exact ordered
      · rename_i notBefore other
        have after : first < text := by
          by_contra notAfter
          exact other (String.le_antisymm notAfter notBefore)
        refine List.pairwise_cons.mpr ⟨?_, ih later⟩
        intro t inside
        rcases mem_putText_iff.mp inside with rfl | inside
        · exact after
        · exact below t inside

theorem mem_methodSet_iff {m : String} {methods : List String} :
    m ∈ methodSet methods ↔ m ∈ methods.map Text.upperAscii := by
  induction methods with
  | nil => simp [methodSet]
  | cons first rest ih =>
    rw [List.map_cons, List.mem_cons, ← ih]
    exact mem_putText_iff

theorem pairwise_methodSet (methods : List String) : (methodSet methods).Pairwise (· < ·) := by
  induction methods with
  | nil => exact List.Pairwise.nil
  | cons first rest ih => exact pairwise_putText ih

/-- Methods are put into a key as a set, in which case does not count. -/
theorem methodSet_eq_iff {methods others : List String} :
    methodSet methods = methodSet others ↔
      (methods.map Text.upperAscii).toFinset = (others.map Text.upperAscii).toFinset := by
  rw [Finset.ext_iff]
  simp only [List.mem_toFinset, ← mem_methodSet_iff]
  constructor
  · intro same m
    rw [same]
  · exact (pairwise_methodSet methods).eq_of_mem_iff (pairwise_methodSet others)

/-- A text that may stand among others with commas between them. -/
def Listable (text : List Char) : Prop := text ≠ [] ∧ ',' ∉ text

theorem toList_commaSeparated (texts : List String) :
    (",".intercalate texts).toList = [','].intercalate (texts.map String.toList) :=
  String.toList_intercalate

theorem joined_methodSet_eq_iff {methods others : List String}
    (listable : ∀ m ∈ methods, Listable (Text.upperAscii m).toList)
    (listableToo : ∀ m ∈ others, Listable (Text.upperAscii m).toList) :
    ",".intercalate (methodSet methods) = ",".intercalate (methodSet others) ↔
      methodSet methods = methodSet others := by
  have texts {written : List String} (good : ∀ m ∈ written, Listable (Text.upperAscii m).toList) :
      ∀ text ∈ (methodSet written).map String.toList, Listable text := by
    intro text inside
    obtain ⟨m, put, rfl⟩ := List.mem_map.mp inside
    obtain ⟨method, asked, rfl⟩ := List.mem_map.mp (mem_methodSet_iff.mp put)
    exact good method asked
  constructor
  · intro same
    have lists := congrArg String.toList same
    rw [toList_commaSeparated, toList_commaSeparated] at lists
    have equal := Text.intercalate_inj_of_absent (texts listable) (texts listableToo) lists
    exact List.map_injective_iff.mpr (fun _ _ => String.toList_inj.mp) equal
  · exact congrArg _

/-! Hosts in a key. -/

theorem toList_toText (h : HostAndPort) :
    h.toText.toList = h.host.toList ++ ':' :: (toString h.port.toNat).toList := by
  simp [HostAndPort.toText]

/-- The port has no part in the separators of a host's text. -/
theorem count_toText {separator : Char} (other : separator.isDigit = false) (h : HostAndPort) :
    h.toText.toList.count separator = h.host.toList.count separator + [':'].count separator := by
  have portless : (toString h.port.toNat).toList.count separator = 0 :=
    List.count_eq_zero_of_not_mem (Text.not_mem_decimal other _)
  rw [toList_toText, List.append_cons, List.count_append, List.count_append, portless, Nat.add_zero]

/-- The port follows the last colon. -/
theorem toText_inj {h k : HostAndPort} (same : h.toText = k.toText) : h = k := by
  have lists := congrArg String.toList same
  have counts : h.host.toList.count ':' = k.host.toList.count ':' := by
    have total := congrArg (List.count ':') lists
    rw [count_toText (by decide), count_toText (by decide)] at total
    exact Nat.add_right_cancel total
  rw [toList_toText, toList_toText] at lists
  obtain ⟨hosts, ports⟩ := Text.append_cons_inj_of_count counts lists
  have host : h.host = k.host := String.toList_inj.mp hosts
  have port : h.port = k.port := UInt16.toNat_inj.mp (Text.toString_nat_inj.mp ports)
  cases h
  cases k
  congr

/-- Hosts without commas in their names, or with equally many of them, each one as its counterpart. -/
def CommasAlike (hosts others : List HostAndPort) : Prop :=
  (∀ h ∈ hosts ++ others, ',' ∉ h.host.toList) ∨
    hosts.map (·.host.toList.count ',') = others.map (·.host.toList.count ',')

instance (hosts others : List HostAndPort) : Decidable (CommasAlike hosts others) :=
  inferInstanceAs (Decidable (_ ∨ _))

theorem listable_toText {h : HostAndPort} (commaFree : ',' ∉ h.host.toList) : Listable h.toText.toList := by
  have absent : h.toText.toList.count ',' = 0 := by
    rw [count_toText (by decide), List.count_eq_zero_of_not_mem commaFree]
    rfl
  have colon : ':' ∈ h.toText.toList := by
    rw [toList_toText]
    exact List.mem_append_right _ List.mem_cons_self
  exact ⟨List.ne_nil_of_mem colon, List.count_eq_zero.mp absent⟩

theorem toList_hostsText {hosts : List HostAndPort} (some : hosts ≠ []) :
    (hostsText hosts).toList = [','].intercalate ((hosts.map (·.toText)).map String.toList) := by
  rw [hostsText, if_neg (mt List.isEmpty_iff.mp some), toList_commaSeparated]

/-- Some host is told from none by the colon before its port. -/
theorem hostsText_ne_marker {hosts : List HostAndPort} (some : hosts ≠ []) :
    hostsText hosts ≠ hostsText [] := by
  intro same
  have colon : ':' ∈ (hostsText hosts).toList := by
    obtain ⟨h, rest, rfl⟩ := List.exists_cons_of_ne_nil some
    rw [toList_hostsText some, List.map_cons, List.map_cons, Text.intercalate_cons_eq, toList_toText]
    exact List.mem_append_left _ (List.mem_append_right _ List.mem_cons_self)
  rw [same] at colon
  exact absurd colon (by decide)

theorem hostsText_inj {hosts others : List HostAndPort} (commas : CommasAlike hosts others)
    (same : hostsText hosts = hostsText others) : hosts = others := by
  by_cases nothing : hosts = []
  · subst nothing
    by_contra more
    exact hostsText_ne_marker (Ne.symm more) same.symm
  · have some : others ≠ [] := by
      rintro rfl
      exact hostsText_ne_marker nothing same
    have lists := congrArg String.toList same
    rw [toList_hostsText nothing, toList_hostsText some] at lists
    have texts : (hosts.map (·.toText)).map String.toList = (others.map (·.toText)).map String.toList := by
      rcases commas with commaFree | counts
      · rw [List.forall_mem_append] at commaFree
        have written {items : List HostAndPort} (good : ∀ h ∈ items, ',' ∉ h.host.toList) :
            ∀ text ∈ (items.map (·.toText)).map String.toList, Listable text := by
          simp only [List.forall_mem_map]
          exact fun h inside => listable_toText (good h inside)
        exact Text.intercalate_inj_of_absent (written commaFree.1) (written commaFree.2) lists
      · have textCounts (items : List HostAndPort) :
            ((items.map (·.toText)).map String.toList).map (List.count ',') =
              items.map (·.host.toList.count ',') := by
          rw [List.map_map, List.map_map]
          refine List.map_congr_left ?_
          intro h _
          exact count_toText (by decide) h
        rw [← textCounts, ← textCounts] at counts
        exact Text.intercalate_inj_of_count counts lists
    have equal := List.map_injective_iff.mpr (fun _ _ => String.toList_inj.mp) texts
    exact List.map_injective_iff.mpr (fun _ _ => toText_inj) equal

/-! Keys as fields with bars between them. -/

namespace Parts

/-- The texts that the key is joined of. -/
def fields (p : Parts) : List String :=
  [p.upstreamTemplate, ",".intercalate (methodSet p.methods), orMarker p.upstreamHost "no-host",
   hostsText p.hosts, orMarker p.serviceNamespace "no-svc-ns", orMarker p.serviceName "no-svc-name",
   p.loadBalancer.type.name, orMarker p.loadBalancer.key "no-lb-key"]

/-- Two routes are set up alike. A missing text and an empty one are alike, and so are methods that differ in case,
order or repetition. -/
@[mk_iff]
structure SameAs (p q : Parts) : Prop where
  upstreamTemplate : p.upstreamTemplate = q.upstreamTemplate
  methods : (p.methods.map Text.upperAscii).toFinset = (q.methods.map Text.upperAscii).toFinset
  upstreamHost : given? p.upstreamHost = given? q.upstreamHost
  hosts : p.hosts = q.hosts
  serviceNamespace : given? p.serviceNamespace = given? q.serviceNamespace
  serviceName : given? p.serviceName = given? q.serviceName
  type : p.loadBalancer.type = q.loadBalancer.type
  key : given? p.loadBalancer.key = given? q.loadBalancer.key

/-- It is not the case that one text is missing and the other one is the marker for a missing text. -/
def MarkedApart (marker : String) (text other : Option String) : Prop :=
  ¬(given? text = none ∧ given? other = some marker) ∧ ¬(given? other = none ∧ given? text = some marker)

instance (marker : String) (text other : Option String) : Decidable (MarkedApart marker text other) :=
  inferInstanceAs (Decidable (_ ∧ _))

/-- Two keys are laid out alike: the fields behind the template hold equally many bars, each one as its counterpart,
commas in the names of hosts do not differ, and no text is taken for a marker. -/
@[mk_iff]
structure LaidOutAlike (p q : Parts) : Prop where
  bars : p.fields.tail.map (·.toList.count '|') = q.fields.tail.map (·.toList.count '|')
  commas : CommasAlike p.hosts q.hosts
  upstreamHost : MarkedApart "no-host" p.upstreamHost q.upstreamHost
  serviceNamespace : MarkedApart "no-svc-ns" p.serviceNamespace q.serviceNamespace
  serviceName : MarkedApart "no-svc-name" p.serviceName q.serviceName
  key : MarkedApart "no-lb-key" p.loadBalancer.key q.loadBalancer.key

instance (p q : Parts) : Decidable (p.SameAs q) := decidable_of_iff _ (sameAs_iff p q).symm

instance (p q : Parts) : Decidable (p.LaidOutAlike q) := decidable_of_iff _ (laidOutAlike_iff p q).symm

variable {p q : Parts}

theorem given?_eq_of_orMarker {text other : Option String} {marker : String}
    (apart : MarkedApart marker text other)
    (same : orMarker text marker = orMarker other marker) : given? text = given? other := by
  change (given? text).getD marker = (given? other).getD marker at same
  cases first : given? text with
  | none =>
    cases second : given? other with
    | none => rfl
    | some u =>
      rw [first, second] at same
      exact absurd ⟨first, second.trans (congrArg some same.symm)⟩ apart.1
  | some t =>
    cases second : given? other with
    | none =>
      rw [first, second] at same
      exact absurd ⟨second, first.trans (congrArg some same)⟩ apart.2
    | some u =>
      rw [first, second] at same
      exact congrArg some same

theorem markedApart_of_eq {text other : Option String} (same : given? text = given? other) (marker : String) :
    MarkedApart marker text other := by
  constructor
  · rintro ⟨missing, marked⟩
    rw [← same, missing] at marked
    cases marked
  · rintro ⟨missing, marked⟩
    rw [same, missing] at marked
    cases marked

theorem type_eq_of_name {type other : LoadBalancerType} (same : type.name = other.name) : type = other := by
  cases type <;> cases other <;> first | rfl | exact absurd same (by decide)

theorem SameAs.fields_eq (same : p.SameAs q) : p.fields = q.fields := by
  have markers {text other : Option String} (marker : String) (equal : given? text = given? other) :
      orMarker text marker = orMarker other marker := congrArg (·.getD marker) equal
  have methods := methodSet_eq_iff.mpr same.methods
  rw [fields, fields, same.upstreamTemplate, methods, markers _ same.upstreamHost, same.hosts,
    markers _ same.serviceNamespace, markers _ same.serviceName, same.type, markers _ same.key]

theorem SameAs.laidOutAlike (same : p.SameAs q) : p.LaidOutAlike q where
  bars := by rw [same.fields_eq]
  commas := by
    rw [same.hosts]
    exact Or.inr rfl
  upstreamHost := markedApart_of_eq same.upstreamHost _
  serviceNamespace := markedApart_of_eq same.serviceNamespace _
  serviceName := markedApart_of_eq same.serviceName _
  key := markedApart_of_eq same.key _

theorem LaidOutAlike.sameAs (alike : p.LaidOutAlike q)
    (listable : ∀ m ∈ p.methods, Listable (Text.upperAscii m).toList)
    (listableToo : ∀ m ∈ q.methods, Listable (Text.upperAscii m).toList)
    (same : p.fields = q.fields) : p.SameAs q := by
  simp only [fields, List.cons.injEq, and_true] at same
  obtain ⟨template, methods, upstreamHost, hosts, serviceNamespace, serviceName, type, key⟩ := same
  exact
    { upstreamTemplate := template
      methods := methodSet_eq_iff.mp ((joined_methodSet_eq_iff listable listableToo).mp methods)
      upstreamHost := given?_eq_of_orMarker alike.upstreamHost upstreamHost
      hosts := hostsText_inj alike.commas hosts
      serviceNamespace := given?_eq_of_orMarker alike.serviceNamespace serviceNamespace
      serviceName := given?_eq_of_orMarker alike.serviceName serviceName
      type := type_eq_of_name type
      key := given?_eq_of_orMarker alike.key key }

theorem ofParts_of_spread (spread : p.loadBalancer.isSticky = false) :
    ofParts p = "|".intercalate p.fields := by
  have cookieless : sticky? p.loadBalancer = none := by rw [sticky?, spread]; rfl
  rw [ofParts, cookieless]
  rfl

theorem fields_eq_of_ofParts (spread : p.loadBalancer.isSticky = false)
    (spreadToo : q.loadBalancer.isSticky = false)
    (bars : p.fields.tail.map (·.toList.count '|') = q.fields.tail.map (·.toList.count '|'))
    (same : ofParts p = ofParts q) : p.fields = q.fields := by
  rw [ofParts_of_spread spread, ofParts_of_spread spreadToo] at same
  have lists : ['|'].intercalate (p.fields.map String.toList) =
      ['|'].intercalate (q.fields.map String.toList) := by
    have texts := congrArg String.toList same
    rwa [String.toList_intercalate, String.toList_intercalate] at texts
  have counts : (p.fields.tail.map String.toList).map (List.count '|') =
      (q.fields.tail.map String.toList).map (List.count '|') := by
    rwa [List.map_map, List.map_map]
  have equal : p.fields.map String.toList = q.fields.map String.toList :=
    Text.intercalate_cons_inj_of_count counts lists
  exact List.map_injective_iff.mpr (fun _ _ => String.toList_inj.mp) equal

/-- Equal keys that are laid out alike belong to routes that are set up alike, and to no others. -/
theorem ofParts_eq_and_laidOutAlike_iff (spread : p.loadBalancer.isSticky = false)
    (spreadToo : q.loadBalancer.isSticky = false)
    (listable : ∀ m ∈ p.methods, Listable (Text.upperAscii m).toList)
    (listableToo : ∀ m ∈ q.methods, Listable (Text.upperAscii m).toList) :
    ofParts p = ofParts q ∧ p.LaidOutAlike q ↔ p.SameAs q := by
  constructor
  · rintro ⟨same, alike⟩
    exact alike.sameAs listable listableToo (fields_eq_of_ofParts spread spreadToo alike.bars same)
  · intro same
    refine ⟨?_, same.laidOutAlike⟩
    rw [ofParts_of_spread spread, ofParts_of_spread spreadToo, same.fields_eq]

end Parts

end IdentityKey

namespace RouteSection

open IdentityKey

/-- What the identity of the route depends on. -/
def identityParts (s : RouteSection) (global : GlobalSection) : Parts where
  upstreamTemplate := s.upstreamPathTemplate
  methods := s.upstreamMethods
  upstreamHost := s.upstreamHost
  hosts := (s.resolveHosts global).value
  serviceNamespace := s.serviceNamespace
  serviceName := s.serviceName
  loadBalancer := s.mergedLoadBalancer global

variable {s t : RouteSection} {g h : GlobalSection} {q r : Route}

theorem identityKey_of_assemble (made : (s.assemble g).result = .ok r) :
    r.identityKey = ofParts (s.identityParts g) ∧
      r.downstream.loadBalancer = (s.identityParts g).loadBalancer := by
  obtain ⟨upstream, method, _, rfl⟩ := result_assemble_eq_ok.mp made
  exact ⟨rfl, rfl⟩

/-- A method that is accepted may stand among others, blanks around it included. -/
theorem listable_of_isName {method : String} (accepted : isName (methodName method) = true) :
    Listable (Text.upperAscii method).toList := by
  rw [methodName, isName, Bool.and_eq_true] at accepted
  obtain ⟨filled, named⟩ := accepted
  constructor
  · intro nothing
    rw [Text.upperAscii, String.toList_ofList, List.map_eq_nil_iff] at nothing
    have empty : Text.trimmed method = "" := by rw [Text.trimmed, nothing]; rfl
    rw [empty] at filled
    exact absurd filled (by decide)
  · intro comma
    rw [Text.upperAscii, String.toList_ofList] at comma
    obtain ⟨c, inside, raised⟩ := List.mem_map.mp comma
    have kept : c.toLower = ',' := Text.toUpper_eq_toUpper_iff.mp (raised.trans (by decide : _ = ','.toUpper))
    rw [(Text.toLower_eq_iff (by decide)).mp kept] at inside
    have seen : ',' ∈ Text.trim method.toList := Text.mem_trim_of_notBlank inside (by decide)
    have read : ',' ∈ (Text.upperAscii (Text.trimmed method)).toList := by
      rw [Text.upperAscii, Text.trimmed, String.toList_ofList, String.toList_ofList]
      exact List.mem_map.mpr ⟨',', seen, by decide⟩
    exact absurd (List.all_eq_true.mp named _ read) (by decide)

theorem listable_of_assemble (made : (s.assemble g).result = .ok r) :
    ∀ m ∈ (s.identityParts g).methods, Listable (Text.upperAscii m).toList := by
  have parsed := (compilesTo_of_assemble made).methods
  intro m inside
  exact listable_of_isName (Upstream.isName_of_parseMethodsAfter parsed m inside)

/-- Two declared routes that are not sticky are set up alike exactly when their identity keys are equal and laid out
alike: among keys that are laid out alike, equal ones identify. -/
theorem identityKey_eq_and_laidOutAlike_iff (first : (s.assemble g).result = .ok q)
    (second : (t.assemble h).result = .ok r)
    (spread : q.downstream.loadBalancer.isSticky = false)
    (spreadToo : r.downstream.loadBalancer.isSticky = false) :
    q.identityKey = r.identityKey ∧ (s.identityParts g).LaidOutAlike (t.identityParts h) ↔
      (s.identityParts g).SameAs (t.identityParts h) := by
  obtain ⟨key, loadBalancer⟩ := identityKey_of_assemble first
  obtain ⟨keyToo, loadBalancerToo⟩ := identityKey_of_assemble second
  rw [loadBalancer] at spread
  rw [loadBalancerToo] at spreadToo
  rw [key, keyToo]
  exact Parts.ofParts_eq_and_laidOutAlike_iff spread spreadToo (listable_of_assemble first)
    (listable_of_assemble second)

/-- Sections that differ in how their methods and the missing host are written, with separators in other fields. -/
def severalHosts (methods : List String) (host : Option String) : RouteSection where
  upstreamPathTemplate := "/a|b"
  downstreamPathTemplate := "/"
  downstreamHosts := [.inline ⟨"h,g", 80⟩, .inline ⟨"k", 81⟩]
  upstreamMethods := methods
  upstreamHost := host

theorem identityKey_of_severalHosts :
    ∃ q r v, ((severalHosts ["get", "POST"] none).assemble {}).result = .ok q ∧
      ((severalHosts ["post", "Get", "POST"] (some "")).assemble {}).result = .ok r ∧
      ((severalHosts ["get", "POST"] (some "h")).assemble {}).result = .ok v ∧
      q.identityKey = r.identityKey ∧ q.identityKey ≠ v.identityKey := by
  have exists_route (methods : List String) (host : Option String)
      (compiles : ((severalHosts methods host).assemble {}).result.isOk = true) :
      ∃ r, ((severalHosts methods host).assemble {}).result = .ok r ∧
        r.downstream.loadBalancer.isSticky = false := by
    obtain ⟨r, made⟩ := exists_of_isOk compiles
    refine ⟨r, made, ?_⟩
    rw [(identityKey_of_assemble made).2]
    rfl
  obtain ⟨q, first, spread⟩ := exists_route ["get", "POST"] none (by decide +kernel)
  obtain ⟨r, second, spreadToo⟩ := exists_route ["post", "Get", "POST"] (some "") (by decide +kernel)
  obtain ⟨v, third, spreadLast⟩ := exists_route ["get", "POST"] (some "h") (by decide +kernel)
  refine ⟨q, r, v, first, second, third, ?_, ?_⟩
  · exact ((identityKey_eq_and_laidOutAlike_iff first second spread spreadToo).mpr (by decide)).1
  · intro same
    have alike : ((severalHosts ["get", "POST"] none).identityParts {}).LaidOutAlike
        ((severalHosts ["get", "POST"] (some "h")).identityParts {}) := by decide
    have set := (identityKey_eq_and_laidOutAlike_iff first third spread spreadLast).mp ⟨same, alike⟩
    exact absurd set (by decide)

/-- Two routes for one path, of which one is for a host that has the name of the marker for none. -/
def markerHost : Configuration where
  routes := [toOneHost "/a", { toOneHost "/a" with upstreamHost := some "no-host" }]

/-- They have one key, and so one circuit. -/
theorem identityKey_of_markerHost :
    markerHost.validate {} = .ok () ∧
      ∃ s ∈ markerHost.routes, ∃ t ∈ markerHost.routes, ∃ q r,
        (s.assemble markerHost.global).result = .ok q ∧ (t.assemble markerHost.global).result = .ok r ∧
        q.downstream.loadBalancer.isSticky = false ∧ r.downstream.loadBalancer.isSticky = false ∧
        q.identityKey = r.identityKey ∧
        ¬(s.identityParts markerHost.global).SameAs (t.identityParts markerHost.global) := by
  refine ⟨by decide +kernel, _, List.mem_cons_self, _, List.mem_cons_of_mem _ List.mem_cons_self, ?_⟩
  have compiles : ((toOneHost "/a").assemble {}).result.isOk = true := by
    decide +kernel
  have compilesToo : (({ toOneHost "/a" with upstreamHost := some "no-host" } : RouteSection).assemble
      {}).result.isOk = true := by decide +kernel
  obtain ⟨q, first⟩ := exists_of_isOk compiles
  obtain ⟨r, second⟩ := exists_of_isOk compilesToo
  refine ⟨q, r, first, second, ?_, ?_, ?_, by decide⟩
  · rw [(identityKey_of_assemble first).2]
    rfl
  · rw [(identityKey_of_assemble second).2]
    rfl
  · rw [(identityKey_of_assemble first).1, (identityKey_of_assemble second).1]
    decide +kernel

end RouteSection

end GatewayRouting
