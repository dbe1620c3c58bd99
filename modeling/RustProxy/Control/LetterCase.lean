import RustProxy.Control.VirtualHosts
import RustProxy.Server.ClientHello
import RustProxy.Server.RequestHead

/-!
# The letter case of hosts

Two requests that spell the names of their fields and their host differently, in upper or lower case,
and the rules that the shared listeners find for them.

* `HeadVariant` and `HelloVariant` say what two request heads, or two ClientHellos, may differ in.
* `caseBlind_iff` says which of them are routed alike, for each pair and for all spellings of a request
  at once.  The listeners compare neither the name of the field nor the domain without regard to case.
-/

namespace RustProxy.Control

open RustProxy.Core RustProxy.Server.HostNames RustProxy.Server.RequestHead Utf8
open RustProxy.Server.ClientHello

/-! ## Spellings -/

/-- The same letters, in upper or lower case. -/
def SameLetters (s t : List Char) : Prop := s.map Char.toLower = t.map Char.toLower

instance (s t : List Char) : Decidable (SameLetters s t) := inferInstanceAs (Decidable (_ = _))

/-- Having the same letters is symmetric. -/
lemma SameLetters.symm {s t : List Char} (h : SameLetters s t) : SameLetters t s := Eq.symm h

/-- Having the same letters is transitive. -/
lemma SameLetters.trans {s t u : List Char} (h : SameLetters s t) (h' : SameLetters t u) :
    SameLetters s u := Eq.trans h h'

/-- A field whose name is `Host` in some spelling. -/
def IsHostField (f : Field) : Prop := SameLetters f.name.toList "Host".toList

instance (f : Field) : Decidable (IsHostField f) := inferInstanceAs (Decidable (SameLetters _ _))

/-- Two fields that differ in the spelling of the name and, for a `Host` field, of the host. -/
structure FieldVariant (f g : Field) : Prop where
  name : SameLetters f.name.toList g.name.toList
  value : f.value = g.value ∨ IsHostField f ∧ ∃ v w : HostValue, f.value = encode v.text ∧
    g.value = encode w.text ∧ v.before = w.before ∧ v.port = w.port ∧ v.after = w.after ∧
    SameLetters v.host w.host

/-- Two heads that differ in the spelling of field names and hosts. -/
structure HeadVariant (h h' : Head) : Prop where
  method : h.method = h'.method
  target : h.target = h'.target
  fields : List.Forall₂ FieldVariant h.fields h'.fields

/-- Two lists of extensions that differ in the spelling of the first server name. -/
inductive ExtensionsVariant : List Extension → List Extension → Prop
  | first {host host' : String} (h : SameLetters host.toList host'.toList) (rest : List Extension) :
      ExtensionsVariant (.serverName host :: rest) (.serverName host' :: rest)
  | other (type : UInt16) (htype : type ≠ 0) (body : List UInt8) {es es' : List Extension}
      (h : ExtensionsVariant es es') :
      ExtensionsVariant (.other type htype body :: es) (.other type htype body :: es')

/-- Two ClientHellos that differ in the spelling of the server name. -/
structure HelloVariant (fields fields' : Fields) : Prop where
  same : fields' = { fields with extensions := fields'.extensions }
  extensions : ExtensionsVariant fields.extensions fields'.extensions

/-- Two names are routed alike: both have entries and these are for the same rule, or neither has. -/
inductive SameEntry (routes : String → Option ProxyRule) : Option String → Option String → Prop
  | both {host host' : String} {rule : ProxyRule} (h : routes host = some rule)
      (h' : routes host' = some rule) : SameEntry routes (some host) (some host')
  | neither {host? host?' : Option String} (h : ∀ host ∈ host?, routes host = none)
      (h' : ∀ host ∈ host?', routes host = none) : SameEntry routes host? host?'

/-- Two hosts lead to the same entry exactly if the lookups agree. -/
lemma sameEntry_iff {routes : String → Option ProxyRule} {host? host?' : Option String} :
    SameEntry routes host? host?' ↔ host?.bind routes = host?'.bind routes := by
  have hnone : ∀ o : Option String, (∀ host ∈ o, routes host = none) ↔ o.bind routes = none := by
    intro o
    cases o <;> simp
  constructor
  · rintro (⟨h, h'⟩ | ⟨h, h'⟩)
    · simp [h, h']
    · rw [(hnone _).mp h, (hnone _).mp h']
  · intro h
    cases hrule : host?.bind routes with
    | none => exact .neither ((hnone _).mpr hrule) ((hnone _).mpr (h ▸ hrule))
    | some rule =>
        obtain ⟨host, rfl, hhost⟩ := Option.bind_eq_some_iff.mp hrule
        obtain ⟨host', rfl, hhost'⟩ := Option.bind_eq_some_iff.mp (h ▸ hrule)
        exact .both hhost hhost'

/-! ## Request heads -/

/-- A field is a variant of itself. -/
lemma FieldVariant.refl (f : Field) : FieldVariant f f := ⟨rfl, Or.inl rfl⟩

/-- A head is a variant of itself. -/
lemma HeadVariant.refl (head : Head) : HeadVariant head head :=
  ⟨rfl, rfl, List.forall₂_same.mpr fun f _ => .refl f⟩

/-- A field is valid UTF-8 exactly if its value is. -/
lemma valid_line {f : Field} : Utf8.Valid f.line ↔ Utf8.Valid f.value := by
  rw [Field.line, valid_encode_append]

/-- A variant of a field is valid UTF-8 exactly if the field is. -/
lemma FieldVariant.valid_iff {f g : Field} (h : FieldVariant f g) :
    Utf8.Valid f.value ↔ Utf8.Valid g.value := by
  rcases h.value with heq | ⟨-, v, w, hv, hw, -⟩
  · rw [heq]
  · rw [hv, hw]
    exact iff_of_true (valid_encode _) (valid_encode _)

/-- Spelling has no part in whether a head is UTF-8. -/
lemma HeadVariant.valid_iff {h h' : Head} (hvariant : HeadVariant h h') :
    Utf8.Valid h.bytes ↔ Utf8.Valid h'.bytes := by
  have hline : h.requestLine = h'.requestLine := by
    rw [Head.requestLine, Head.requestLine, hvariant.method, hvariant.target]
  have hfields : ∀ {fs gs : List Field}, List.Forall₂ FieldVariant fs gs →
      ((∀ f ∈ fs, Utf8.Valid f.line) ↔ ∀ g ∈ gs, Utf8.Valid g.line) := by
    intro fs gs hall
    induction hall with
    | nil => simp
    | cons hfg _ ih =>
        rw [List.forall_mem_cons, List.forall_mem_cons, valid_line, valid_line, hfg.valid_iff, ih]
  unfold Head.bytes Head.lines
  rw [valid_lines, valid_lines, List.forall_mem_cons, List.forall_mem_cons, List.forall_mem_map,
    List.forall_mem_map, hline, hfields hvariant.fields]

/-- A variant of a head is valid UTF-8 exactly if the head is, whatever follows. -/
lemma HeadVariant.valid_append_iff {h h' : Head} (hvariant : HeadVariant h h') {body : List UInt8} :
    Utf8.Valid (h.bytes ++ body) ↔ Utf8.Valid (h'.bytes ++ body) := by
  rw [valid_head_append, valid_head_append, hvariant.valid_iff]

/-- Each element on the right belongs to one on the left. -/
lemma exists_of_mem_right {α β : Type*} {R : α → β → Prop} {xs : List α} {ys : List β}
    (h : List.Forall₂ R xs ys) {y : β} (hy : y ∈ ys) : ∃ x ∈ xs, R x y := by
  induction h with
  | nil => cases hy
  | cons hxy _ ih =>
      rcases List.mem_cons.mp hy with rfl | hy
      · exact ⟨_, List.mem_cons_self, hxy⟩
      · obtain ⟨x, hx, hR⟩ := ih hy
        exact ⟨x, List.mem_cons_of_mem _ hx, hR⟩

section

variable {s : ControlState} {head head' : Head} {body : List UInt8}

/-- Where a request goes: by its host, if it is valid UTF-8. -/
lemma httpTarget_eq :
    httpTarget s (head.bytes ++ body) =
      if Utf8.Valid (head.bytes ++ body) then head.host?.bind s.domainRoutes else none := by
  show (extractHostFromHttp (head.bytes ++ body)).bind s.domainRoutes = _
  rw [extract_head]
  split <;> rfl

/-- Two spellings of one request. -/
lemma httpTarget_variant_iff (h : HeadVariant head head') :
    httpTarget s (head.bytes ++ body) = httpTarget s (head'.bytes ++ body) ↔
      (Utf8.Valid (head.bytes ++ body) → SameEntry s.domainRoutes head.host? head'.host?) := by
  have hvalid : Utf8.Valid (head.bytes ++ body) ↔ Utf8.Valid (head'.bytes ++ body) := h.valid_append_iff
  rw [httpTarget_eq, httpTarget_eq, sameEntry_iff]
  by_cases hutf8 : Utf8.Valid (head.bytes ++ body)
  · simp [hutf8, hvalid.mp hutf8]
  · simp [hutf8, mt hvalid.mpr hutf8]

/-- A field whose name, if it is `Host` in some spelling, is spelled in lower case. -/
def lowered (f : Field) : Field :=
  if IsHostField f then { f with name := "host", token := by decide } else f

/-- Writing the name in small letters is a variant. -/
lemma fieldVariant_lowered (f : Field) : FieldVariant f (lowered f) := by
  have hlower : SameLetters "Host".toList "host".toList := by decide
  unfold lowered
  split
  case isTrue hhost => exact ⟨SameLetters.trans hhost hlower, Or.inl rfl⟩
  case isFalse => exact .refl f

/-- A name in small letters is not `Host`. -/
lemma lowered_name (f : Field) : (lowered f).name ≠ "Host" := by
  have hlower : "host" ≠ "Host" := by decide
  unfold lowered
  split
  case isTrue => exact hlower
  case isFalse hhost =>
      intro hname
      exact hhost (by rw [IsHostField, hname]; rfl)

/-- A head with its `Host` fields spelled in lower case. -/
def loweredHead (head : Head) : Head := { head with fields := head.fields.map lowered }

/-- Writing all names in small letters is a variant. -/
lemma headVariant_lowered (head : Head) : HeadVariant head (loweredHead head) :=
  ⟨rfl, rfl, List.forall₂_map_right_iff.mpr (List.forall₂_same.mpr fun f _ => fieldVariant_lowered f)⟩

/-- No domain with an entry is the host of a `Host` field of the head, in any spelling of the two. -/
def Unregistered (s : ControlState) (head : Head) : Prop :=
  ∀ f ∈ head.fields, IsHostField f → ∀ g, FieldVariant f g → g.name = "Host" →
    ∀ host ∈ hostOfValue g.value, s.domainRoutes host = none

/-- A head with no registered host goes nowhere, in no spelling. -/
lemma Unregistered.httpTarget_eq_none (h : Unregistered s head) (hvariant : HeadVariant head head') :
    httpTarget s (head'.bytes ++ body) = none := by
  rw [httpTarget_eq, ite_eq_right_iff]
  intro _
  rw [Head.host?]
  cases hfield : head'.hostField? with
  | none => rfl
  | some g =>
      have hname := (Head.exists_bytes_eq hfield).2.1
      obtain ⟨f, hf, hfg⟩ := exists_of_mem_right hvariant.fields (List.mem_of_find?_eq_some hfield)
      have hhost : IsHostField f := hfg.name.trans (by rw [hname]; rfl)
      rw [Option.bind_some, Option.bind_eq_none_iff]
      exact h f hf hhost g hfg hname

/-- All spellings of one request. -/
lemma httpTarget_allVariants_iff :
    (∀ head', HeadVariant head head' →
      httpTarget s (head'.bytes ++ body) = httpTarget s (head.bytes ++ body)) ↔
      (Utf8.Valid (head.bytes ++ body) → Unregistered s head) := by
  constructor
  · intro h hvalid f hf hhost g hfg hname host hmem
    obtain ⟨before, after, hfields⟩ := List.append_of_mem hf
    -- beside the spelling without a `Host` field, one in which this field is the only one
    let spelled : Head := { head with fields := before.map lowered ++ g :: after.map lowered }
    have hlowered : ∀ fs : List Field, List.Forall₂ FieldVariant fs (fs.map lowered) := fun fs =>
      List.forall₂_map_right_iff.mpr (List.forall₂_same.mpr fun f _ => fieldVariant_lowered f)
    have hnone : ∀ fs : List Field, (fs.map lowered).find? (fun f => f.name = "Host") = none := by
      intro fs
      simp [List.find?_eq_none, lowered_name]
    have hspelled : HeadVariant head spelled := by
      refine ⟨rfl, rfl, ?_⟩
      rw [hfields]
      exact List.rel_append (hlowered before) (.cons hfg (hlowered after))
    have hvalid' : Utf8.Valid (spelled.bytes ++ body) := hspelled.valid_append_iff.mp hvalid
    have hlowerHost : (loweredHead head).host? = none := by
      rw [Head.host?, Head.hostField?, loweredHead, hnone head.fields]
      rfl
    have hspelledHost : spelled.host? = hostOfValue g.value := by
      rw [Head.host?, Head.hostField?, List.find?_append, hnone before, Option.none_or,
        List.find?_cons_of_pos (by simp [hname])]
      rfl
    have hsame := (h spelled hspelled).trans (h _ (headVariant_lowered head)).symm
    rw [httpTarget_eq, httpTarget_eq, if_pos hvalid', hspelledHost, hlowerHost, Option.bind_none,
      ite_self, Option.bind_eq_none_iff] at hsame
    exact hsame host hmem
  · intro h head' hvariant
    by_cases hvalid : Utf8.Valid (head.bytes ++ body)
    · rw [(h hvalid).httpTarget_eq_none hvariant, (h hvalid).httpTarget_eq_none (.refl head)]
    · rw [httpTarget_eq, httpTarget_eq, if_neg hvalid, if_neg (mt hvariant.valid_append_iff.mpr hvalid)]

end

/-! ## ClientHellos -/

/-- Small letters are as long as capital ones. -/
lemma utf8Size_toLower (c : Char) : c.toLower.utf8Size = c.utf8Size := by
  unfold Char.toLower
  split
  case isTrue h =>
      have hsmall : c.utf8Size = 1 := Char.utf8Size_eq_one_iff.mpr (UInt32.le_trans h.2 (by decide))
      rw [hsmall, Char.utf8Size_eq_one_iff, UInt32.le_iff_toNat_le]
      have hle : c.val.toNat ≤ 90 := UInt32.le_iff_toNat_le.mp h.2
      have hadd : (c.val + ('a'.val - 'A'.val)).toNat ≤ c.val.toNat + 32 := by
        rw [UInt32.toNat_add]
        exact Nat.mod_le _ _
      exact hadd.trans (by simpa using hle.trans (by decide))
  case isFalse => rfl

/-- The length of a text is the sum of the lengths of its characters. -/
lemma length_encode (text : List Char) : (encode text).length = (text.map Char.utf8Size).sum := by
  induction text with
  | nil => rfl
  | cons c text ih => simp [encode_cons, ih]

/-- Spelling has no part in the length of a name. -/
lemma SameLetters.length_eq {s t : List Char} (h : SameLetters s t) :
    (encode s).length = (encode t).length := by
  have hlower : ∀ text : List Char,
      text.map Char.utf8Size = (text.map Char.toLower).map Char.utf8Size := by
    intro text
    rw [List.map_map]
    exact List.map_congr_left fun c _ => (utf8Size_toLower c).symm
  rw [length_encode, length_encode, hlower s, hlower t, h]

/-- The host names of two variants have the same letters. -/
lemma ExtensionsVariant.hosts {es es' : List Extension} (h : ExtensionsVariant es es') :
    ∃ host host', es.findSome? Extension.host? = some host ∧
      es'.findSome? Extension.host? = some host' ∧ SameLetters host.toList host'.toList := by
  induction h with
  | first h rest => exact ⟨_, _, rfl, rfl, h⟩
  | other type htype body _ ih => exact ih

/-- Every spelling of the server name is that of a variant, which is as long. -/
lemma exists_extensionsVariant {es : List Extension} {host host' : String}
    (h : es.findSome? Extension.host? = some host) (hsame : SameLetters host.toList host'.toList) :
    ∃ es', ExtensionsVariant es es' ∧ es'.findSome? Extension.host? = some host' ∧
      (es'.flatMap Extension.bytes).length = (es.flatMap Extension.bytes).length := by
  induction es with
  | nil => cases h
  | cons e es ih =>
      cases e with
      | serverName first =>
          obtain rfl : first = host := Option.some.inj h
          have hlength := hsame.length_eq
          rw [encode_toList, encode_toList] at hlength
          refine ⟨.serverName host' :: es, .first hsame es, rfl, ?_⟩
          simp only [List.flatMap_cons, List.length_append, Extension.length_bytes, Extension.body,
            length_prefixed, List.length_cons, hlength]
      | other type htype body =>
          obtain ⟨es', hvariant, hhost, hlength⟩ := ih h
          exact ⟨.other type htype body :: es', .other type htype body hvariant, hhost,
            by simp [List.flatMap_cons, hlength]⟩

section

variable {s : ControlState} {fields fields' : Fields}

/-- Where a hello goes: by its host name. -/
lemma httpsRoute_eq (h : WellFormed fields) (trailing : List UInt8) :
    httpsRoute s (fields.record ++ trailing) = fields.hostName.bind s.domainRoutes := by
  obtain ⟨pre, hdata, hspan⟩ := extensionsSpan_record fields h trailing
  have hname : extractSniFromClientHello (fields.record ++ trailing) = fields.hostName := by
    rw [extractSni_of_span hspan, hdata]
    exact findServerName_extensions fields.extensions pre trailing (lengths_lt fields h).2
  show (extractSniFromClientHello (fields.record ++ trailing)).bind s.domainRoutes = _
  rw [hname]

/-- A variant of the same length is well formed. -/
lemma HelloVariant.wellFormed (h : WellFormed fields) (hvariant : HelloVariant fields fields')
    (hlength : fields'.extensionBytes.length = fields.extensionBytes.length) : WellFormed fields' := by
  have hhandshake : fields'.handshake.length = fields.handshake.length := by
    rw [hvariant.same] at hlength ⊢
    simp [Fields.handshake, Fields.body, Fields.cipherSuiteBytes, hlength]
  have hsame := hvariant.same
  refine ⟨?_, ?_, ?_, ?_, hhandshake ▸ h.record⟩ <;> rw [hsame]
  · exact h.random
  · exact h.sessionId
  · exact h.compressionMethods
  · exact h.compressionLength

/-- All spellings of one ClientHello. -/
lemma httpsRoute_allVariants_iff (h : WellFormed fields) (trailing : List UInt8) :
    (∀ fields', HelloVariant fields fields' → WellFormed fields' →
      httpsRoute s (fields'.record ++ trailing) = httpsRoute s (fields.record ++ trailing)) ↔
      ∀ host host', fields.hostName = some host → SameLetters host.toList host'.toList →
        s.domainRoutes host' = s.domainRoutes host := by
  constructor
  · intro hall host host' hhost hsame
    obtain ⟨es', hvariant, hhost', hlength⟩ := exists_extensionsVariant hhost hsame
    have hhello : HelloVariant fields { fields with extensions := es' } := ⟨rfl, hvariant⟩
    have hwell := hhello.wellFormed h hlength
    have hroute := hall _ hhello hwell
    rw [httpsRoute_eq hwell, httpsRoute_eq h, hhost] at hroute
    have hname : ({ fields with extensions := es' } : Fields).hostName = some host' := hhost'
    rw [hname] at hroute
    exact hroute
  · intro hsame fields' hvariant hwell
    obtain ⟨host, host', hhost, hhost', hletters⟩ := hvariant.extensions.hosts
    have hname : fields.hostName = some host := hhost
    have hname' : fields'.hostName = some host' := hhost'
    rw [httpsRoute_eq hwell, httpsRoute_eq h, hname, hname', Option.bind_some, Option.bind_some]
    exact hsame host host' hname hletters

end

/-- For every table of domains: two spellings of a request that is UTF-8 find the same rule exactly when
the first fields that are spelled `Host` name, as they spell it, entries for one rule or no entries;
all spellings find the same exactly when no spelling of a `Host` field names an entry.  Two spellings
of a server name find the same exactly when their entries are for one rule or there are none; all
spellings do exactly when that holds for every spelling. -/
theorem caseBlind_iff (s : ControlState) :
    (∀ (head head' : Head) (body : List UInt8), HeadVariant head head' →
      (httpTarget s (head.bytes ++ body) = httpTarget s (head'.bytes ++ body) ↔
        (Utf8.Valid (head.bytes ++ body) → SameEntry s.domainRoutes head.host? head'.host?))) ∧
    (∀ (head : Head) (body : List UInt8),
      (∀ head', HeadVariant head head' →
        httpTarget s (head'.bytes ++ body) = httpTarget s (head.bytes ++ body)) ↔
        (Utf8.Valid (head.bytes ++ body) → Unregistered s head)) ∧
    (∀ (fields fields' : Fields) (trailing : List UInt8), WellFormed fields → WellFormed fields' →
      HelloVariant fields fields' →
      (httpsRoute s (fields.record ++ trailing) = httpsRoute s (fields'.record ++ trailing) ↔
        SameEntry s.domainRoutes fields.hostName fields'.hostName)) ∧
    ∀ (fields : Fields) (trailing : List UInt8), WellFormed fields →
      ((∀ fields', HelloVariant fields fields' → WellFormed fields' →
        httpsRoute s (fields'.record ++ trailing) = httpsRoute s (fields.record ++ trailing)) ↔
        ∀ host host', fields.hostName = some host → SameLetters host.toList host'.toList →
          s.domainRoutes host' = s.domainRoutes host) := by
  refine ⟨fun head head' body h => httpTarget_variant_iff h,
    fun head body => httpTarget_allVariants_iff, fun fields fields' trailing h h' _ => ?_,
    fun fields trailing h => httpsRoute_allVariants_iff h trailing⟩
  rw [httpsRoute_eq h, httpsRoute_eq h', sameEntry_iff]

/-! ## A lower-case field name -/

/-- The state in which these rules have been registered, one after the other. -/
def registered (rules : List ProxyRule) : ControlState :=
  { ControlState.boot .empty with
    domainRoutes := rules.foldl (fun routes rule => insertRoutes rule routes) fun _ => none }

/-- With `host:` for `Host:` the rule of a request is not found. -/
theorem case_changes_route :
    ¬ ∀ (rules : List ProxyRule) (head head' : Head) (body : List UInt8), HeadVariant head head' →
      httpTarget (registered rules) (head.bytes ++ body) =
        httpTarget (registered rules) (head'.bytes ++ body) := by
  intro h
  have hsame := h [createB.rule .http] hostHead (loweredHead hostHead) [] (headVariant_lowered hostHead)
  have hrouted : httpTarget (registered [createB.rule .http]) (hostHead.bytes ++ []) =
      some (createB.rule .http) := by decide +kernel
  have hlost : httpTarget (registered [createB.rule .http]) ((loweredHead hostHead).bytes ++ []) =
      none := by decide +kernel
  rw [hrouted, hlost] at hsame
  cases hsame

end RustProxy.Control
