import RustProxy.Server.RequestHead
import RustProxy.Server.SniBounds

/-!
# What a peek shows of a connection

The shared listeners peek once and route by what they see.  A peek may show less than the client's
first message, and it may show more.

* `extractSni_stable`: of a ClientHello less never gives another name.
* `extractHost_bodyIndependent_iff`: what follows a request head decides whether its host is found.
* `extractHost_stable_iff`: a request head that is cut off in its `Host` value may give another host.
-/

namespace RustProxy.Server.PartialPeek

open HostNames RequestHead Utf8
open SniBounds hiding extractSniFromClientHello

/-! ## A ClientHello in part -/

section hello

variable {p more : List UInt8}

/-- A number in front of what is missing. -/
lemma u16At_append_left {i : ℕ} (h : i + 1 < p.length) : u16At (p ++ more) i = u16At p i := by
  rw [u16At, u16At, List.getD_append _ _ _ _ (by omega), List.getD_append _ _ _ _ h]

/-- The extensions block is where it was. -/
lemma extensionsSpan_append {span : ℕ × ℕ} (h : extensionsSpan p = some span) :
    extensionsSpan (p ++ more) = some span := by
  have hlength : p.length ≤ (p ++ more).length := by simp
  unfold extensionsSpan at h ⊢
  simp only at h ⊢
  split_ifs at h with hshort hcontent hhandshake hcipher hcompression hextensions
  rw [if_neg (by omega), List.getD_append _ _ _ _ (by omega), if_neg hcontent,
    List.getD_append _ _ _ _ (by omega), if_neg hhandshake, List.getD_append _ _ _ _ (by omega),
    if_neg (by omega), u16At_append_left (by omega), if_neg (by omega),
    List.getD_append _ _ _ _ (by omega), if_neg (by omega), u16At_append_left (by omega)]
  exact h

/-- The loop comes to the same extension of type 0. -/
lemma serverNameOffset_append {extensionsEnd offset ext : ℕ}
    (h : serverNameOffset p extensionsEnd offset = some ext) :
    serverNameOffset (p ++ more) extensionsEnd offset = some ext := by
  induction offset using serverNameOffset.induct p extensionsEnd with
  | case1 offset hroom htype =>
      rw [serverNameOffset, if_pos hroom, if_pos htype] at h
      have hroom' : offset + 4 ≤ min extensionsEnd (p ++ more).length := by simp; omega
      rw [serverNameOffset, if_pos hroom', u16At_append_left (by omega), if_pos htype, h]
  | case2 offset hroom htype ih =>
      rw [serverNameOffset, if_pos hroom, if_neg htype] at h
      have hroom' : offset + 4 ≤ min extensionsEnd (p ++ more).length := by simp; omega
      rw [serverNameOffset, if_pos hroom', u16At_append_left (by omega), if_neg htype,
        u16At_append_left (by omega), ih h]
  | case3 offset hroom =>
      rw [serverNameOffset, if_neg hroom] at h
      cases h

/-- A name that could be read is still there. -/
lemma nameReadable_append {ext : ℕ} (h : NameReadable p ext) :
    NameReadable (p ++ more) ext ∧ nameBytes (p ++ more) ext = nameBytes p ext := by
  obtain ⟨htype, hroom, htext⟩ := h
  have hlen : nameLen (p ++ more) ext = nameLen p ext := u16At_append_left (by omega)
  have hbytes : nameBytes (p ++ more) ext = nameBytes p ext := by
    rw [nameBytes, nameBytes, hlen, List.drop_append_of_le_length (by omega),
      List.take_append_of_le_length (by rw [List.length_drop]; omega)]
  refine ⟨⟨?_, ?_, ?_⟩, hbytes⟩
  · rw [List.getD_append _ _ _ _ (by omega), htype]
  · rw [hlen, List.length_append]
    omega
  · rw [hbytes]
    exact htext

end hello

/-- **Stability of the server name.**  For all bytes and every prefix of them: a name that is found in
the prefix is found in all of them, and so is a rule that is looked up under it. -/
theorem extractSni_stable (p data : List UInt8) (hstart : p <+: data) :
    (∀ name, extractSniFromClientHello p = some name → extractSniFromClientHello data = some name) ∧
      ∀ (ρ : Type) (routes : String → Option ρ) (rule : ρ),
        (extractSniFromClientHello p).bind routes = some rule →
          (extractSniFromClientHello data).bind routes = some rule := by
  obtain ⟨more, rfl⟩ := hstart
  have hname : ∀ name, extractSniFromClientHello p = some name →
      extractSniFromClientHello (p ++ more) = some name := by
    intro name h
    obtain ⟨start, stop, ext, hspan, hoffset, hreadable, htext⟩ := extractSni_eq_some_iff.mp h
    obtain ⟨hreadable', hbytes⟩ : NameReadable (p ++ more) ext ∧
        nameBytes (p ++ more) ext = nameBytes p ext := nameReadable_append hreadable
    exact extractSni_eq_some_iff.mpr ⟨start, stop, ext, extensionsSpan_append hspan,
      serverNameOffset_append hoffset, hreadable', by rw [hbytes, htext]⟩
  refine ⟨hname, fun ρ routes rule hrule => ?_⟩
  obtain ⟨name, hsome, hroute⟩ := Option.bind_eq_some_iff.mp hrule
  rw [hname name hsome]
  exact hroute

/-- A hello with the beginning of another record behind it. -/
theorem extractSni_stable_sample :
    extractSniFromClientHello (clientHello ++ [0x14, 3, 3]) = some "b.example" :=
  (extractSni_stable clientHello _ ⟨[0x14, 3, 3], rfl⟩).1 "b.example" (by decide +kernel)

/-! ## A request head and a body -/

/-- The bytes behind a head do not change the host exactly when the head names none, or is not UTF-8
itself, or both or neither of the two bodies are UTF-8. -/
theorem extractHost_bodyIndependent_iff (head : Head) (b₁ b₂ : List UInt8) :
    extractHostFromHttp (head.bytes ++ b₁) = extractHostFromHttp (head.bytes ++ b₂) ↔
      head.hostField? = none ∨ ¬ Valid head.bytes ∨ (Valid b₁ ↔ Valid b₂) := by
  rw [extract_head, extract_head]
  simp only [valid_head_append]
  cases hfield : head.hostField? with
  | none => simp [Head.host?, hfield]
  | some f =>
      by_cases hvalid : Valid head.bytes
      · obtain ⟨text, htext⟩ := Head.exists_text hfield hvalid
        rw [Head.host?_eq hfield htext]
        by_cases h₁ : Valid b₁ <;> by_cases h₂ : Valid b₂ <;> simp [hvalid, h₁, h₂]
      · simp [hvalid]

/-- The host of a request is found without a body, and not with a body of one octet. -/
theorem body_hides_host :
    ¬ ∀ (head : Head) (b₁ b₂ : List UInt8),
      extractHostFromHttp (head.bytes ++ b₁) = extractHostFromHttp (head.bytes ++ b₂) := by
  intro h
  have hfound : extractHostFromHttp (hostHead.bytes ++ []) = some "b.example" := by decide +kernel
  have hlost : extractHostFromHttp (hostHead.bytes ++ [0xff]) = none := by decide +kernel
  have hsame := h hostHead [] [0xff]
  rw [hfound, hlost] at hsame
  cases hsame

/-! ## A value in part -/

/-- The host of a value can be seen whole in the part `shown` of it: the character that ends the host
is in that part, or all that is missing is blank, or what is missing begins with that character. -/
def HostShown (shown missing : List Char) : Prop :=
  closing (shown ++ missing) ∈ shown ∨ (∀ c ∈ missing, isWhitespace c = true) ∨
    (closing (shown ++ missing) = ':' ∧
      trim shown ++ [':'] <+: (shown ++ missing).dropWhile isWhitespace)

section value

variable {shown missing : List Char}

/-- The closing character is not blank. -/
lemma closing_not_blank (value : List Char) : isWhitespace (closing value) = false := by
  rw [closing]
  split <;> decide

/-- Trimming in front keeps what is not blank. -/
lemma mem_dropWhile {value : List Char} {c : Char} (hc : isWhitespace c = false) :
    c ∈ value.dropWhile isWhitespace ↔ c ∈ value := by
  refine ⟨fun h => (List.dropWhile_suffix isWhitespace).subset h, fun h => ?_⟩
  rw [← List.takeWhile_append_dropWhile (p := isWhitespace) (l := value), List.mem_append] at h
  rcases h with h | h
  · have := List.mem_takeWhile_imp h
    rw [hc] at this
    cases this
  · exact h

/-- Once something is shown, nothing more is trimmed in front. -/
lemma dropWhile_append_of_mem {c : Char} (hc : isWhitespace c = false) (h : c ∈ shown) :
    (shown ++ missing).dropWhile isWhitespace = shown.dropWhile isWhitespace ++ missing := by
  rw [List.dropWhile_append, if_neg]
  rw [List.isEmpty_iff]
  exact List.ne_nil_of_mem ((mem_dropWhile hc).mpr h)

/-- The first character that ends the host of a value. -/
lemma exists_closed {value : List Char} (h : closing value ∈ value) :
    ∃ host rest, value.dropWhile isWhitespace = host ++ closing value :: rest ∧ closing value ∉ host :=
  List.eq_append_cons_of_mem ((mem_dropWhile (closing_not_blank value)).mpr h)

/-- The host is what stands before that character, with the character if it is a bracket. -/
lemma hostOfText_of_closed {value host rest : List Char}
    (h : value.dropWhile isWhitespace = host ++ closing value :: rest) (hhost : closing value ∉ host) :
    hostOfText value = if closing value = ']' then host ++ [']'] else host := by
  unfold closing at h hhost ⊢
  by_cases hopen : (value.dropWhile isWhitespace).head? = some '['
  · rw [if_pos hopen] at h hhost ⊢
    rw [if_pos rfl]
    cases host with
    | nil =>
        rw [h] at hopen
        cases hopen
    | cons c address =>
        rw [h] at hopen
        cases hopen
        exact hostOfText_of_bracket h fun hmem => hhost (List.mem_cons_of_mem _ hmem)
  · rw [if_neg hopen] at h hhost ⊢
    rw [if_neg (by decide)]
    refine hostOfText_of_colon h hhost fun hhead => hopen ?_
    rw [h]
    cases host with
    | nil => cases hhead
    | cons c host => exact hhead

/-- Once something is shown, the closing character is known. -/
lemma closing_append_of_mem {c : Char} (hc : isWhitespace c = false) (h : c ∈ shown) :
    closing (shown ++ missing) = closing shown := by
  have hne := List.ne_nil_of_mem ((mem_dropWhile hc).mpr h)
  rw [closing, closing, dropWhile_append_of_mem hc h, List.head?_append_of_ne_nil _ hne]

/-- A part without the character that ends the host is taken for the host as it is. -/
lemma hostOfText_of_shown_open (h : closing (shown ++ missing) ∉ shown) :
    hostOfText shown = trim shown := by
  apply hostOfText_of_open
  intro hmem
  rw [closing_append_of_mem (closing_not_blank shown) hmem] at h
  exact h hmem

/-- Trimming comes to the same exactly when only blanks are missing. -/
lemma trim_append_iff :
    trim (shown ++ missing) = trim shown ↔ ∀ c ∈ missing, isWhitespace c = true := by
  refine ⟨fun h => ?_, trim_append_blank⟩
  obtain ⟨blanks, hblanks, hboth⟩ := exists_blanks (shown ++ missing)
  obtain ⟨blanks', -, hshown⟩ := exists_blanks shown
  by_cases hblank : ∀ c ∈ shown, isWhitespace c = true
  · rw [List.dropWhile_append_of_pos hblank, h] at hboth
    have htrim : trim shown = [] := by
      rw [List.dropWhile_eq_nil_iff.mpr hblank] at hshown
      exact (List.append_eq_nil_iff.mp hshown.symm).1
    rw [htrim, List.nil_append] at hboth
    have hall : missing.dropWhile isWhitespace = [] := by
      cases hdrop : missing.dropWhile isWhitespace with
      | nil => rfl
      | cons c rest =>
          have hhead : (missing.dropWhile isWhitespace).head? = some c := by
            rw [hdrop]
            rfl
          have hfalse := head_dropWhile hhead
          rw [hblanks c (by rw [← hboth, hdrop]; simp)] at hfalse
          cases hfalse
    exact List.dropWhile_eq_nil_iff.mp hall
  · push Not at hblank
    obtain ⟨c, hc, hcblank⟩ := hblank
    rw [dropWhile_append_of_mem (by simpa using hcblank) hc, hshown, h, List.append_assoc,
      List.append_cancel_left_eq] at hboth
    intro c hc
    exact hblanks c (by rw [← hboth]; exact List.mem_append_right _ hc)

/-- A host that ends in the part is the host of the whole value. -/
lemma hostOfText_append_of_closed (hshown : closing (shown ++ missing) ∈ shown) :
    hostOfText (shown ++ missing) = hostOfText shown := by
  have hnotblank := closing_not_blank (shown ++ missing)
  have hclosing : closing (shown ++ missing) = closing shown :=
    closing_append_of_mem hnotblank hshown
  obtain ⟨host, rest, hdrop, hhost⟩ := exists_closed (hclosing ▸ hshown)
  have hboth : (shown ++ missing).dropWhile isWhitespace =
      host ++ closing (shown ++ missing) :: (rest ++ missing) := by
    rw [dropWhile_append_of_mem hnotblank hshown, hdrop, hclosing]
    simp
  rw [hostOfText_of_closed hboth (hclosing ▸ hhost), hostOfText_of_closed hdrop hhost, hclosing]

/-- Trimming brings no character in. -/
lemma not_mem_trim {c : Char} (h : c ∉ shown) : c ∉ trim shown := by
  obtain ⟨blanks, -, htrim⟩ := exists_blanks shown
  exact fun hmem => h ((List.dropWhile_suffix isWhitespace).subset
    (htrim ▸ List.mem_append_left blanks hmem))

/-- Where the character that ends the host is missing, the host is whole only if that character is the
colon and comes next. -/
lemma hostOfText_append_iff_of_missing (hshown : closing (shown ++ missing) ∉ shown)
    (hmissing : closing (shown ++ missing) ∈ missing) :
    hostOfText (shown ++ missing) = trim shown ↔ HostShown shown missing := by
  have hnotblank := closing_not_blank (shown ++ missing)
  obtain ⟨host, rest, hdrop, hhost⟩ := exists_closed (List.mem_append_right shown hmissing)
  have hnot : ¬ ∀ c ∈ missing, isWhitespace c = true := by
    intro hblank
    rw [hblank _ hmissing] at hnotblank
    cases hnotblank
  have htrim : closing (shown ++ missing) ∉ trim shown := not_mem_trim hshown
  rw [hostOfText_of_closed hdrop hhost, HostShown]
  by_cases hbracket : closing (shown ++ missing) = ']'
  · rw [if_pos hbracket]
    rw [hbracket] at htrim
    refine iff_of_false (fun heq => htrim (heq ▸ by simp)) ?_
    rintro (h | h | ⟨h, -⟩)
    · exact hshown h
    · exact hnot h
    · rw [hbracket] at h
      cases h
  · have hcolon : closing (shown ++ missing) = ':' := by
      unfold closing at hbracket ⊢
      split_ifs at hbracket ⊢ <;> trivial
    rw [if_neg hbracket, hdrop, hcolon]
    rw [hcolon] at hhost hshown htrim
    constructor
    · rintro rfl
      exact Or.inr (Or.inr ⟨rfl, rest, by simp⟩)
    · rintro (h | h | ⟨-, rest', h⟩)
      · exact absurd h hshown
      · exact absurd h hnot
      · rw [List.append_assoc] at h
        have htake := congrArg (List.takeWhile (· ≠ ':')) h
        exact ((takeWhile_ne htrim rest').symm.trans (htake.trans (takeWhile_ne hhost rest))).symm

/-- Where no character ends the host, it is whole only if nothing but blanks is missing. -/
lemma hostOfText_append_iff_of_open (hopen : closing (shown ++ missing) ∉ shown ++ missing) :
    hostOfText (shown ++ missing) = trim shown ↔ HostShown shown missing := by
  rw [hostOfText_of_open hopen, trim_append_iff]
  constructor
  · exact fun h => Or.inr (Or.inl h)
  · rintro (h | h | ⟨hcolon, hstart⟩)
    · exact absurd (List.mem_append_left missing h) hopen
    · exact h
    · refine absurd ((List.dropWhile_suffix isWhitespace).subset (hstart.subset ?_)) hopen
      rw [hcolon]
      simp

/-- A part of a value has the host of the whole value exactly when the host is shown whole. -/
theorem hostOfText_append_iff :
    hostOfText (shown ++ missing) = hostOfText shown ↔ HostShown shown missing := by
  by_cases hshown : closing (shown ++ missing) ∈ shown
  · exact iff_of_true (hostOfText_append_of_closed hshown) (Or.inl hshown)
  rw [hostOfText_of_shown_open hshown]
  by_cases hmissing : closing (shown ++ missing) ∈ missing
  · exact hostOfText_append_iff_of_missing hshown hmissing
  · apply hostOfText_append_iff_of_open
    rw [List.mem_append, not_or]
    exact ⟨hshown, hmissing⟩

end value

/-! ## A request head in part -/

/-- A prefix ends before a byte or after it. -/
lemma prefix_cases {p front rest : List UInt8} {b : UInt8} (h : p <+: front ++ b :: rest) :
    p <+: front ∨ ∃ q, p = front ++ b :: q ∧ q <+: rest := by
  have hwhole : front ++ [b] <+: front ++ b :: rest := ⟨rest, by simp⟩
  rcases List.prefix_or_prefix_of_prefix h hwhole with hshort | ⟨q, rfl⟩
  · rcases List.prefix_concat_iff.mp hshort with rfl | hfront
    · exact Or.inr ⟨[], rfl, List.nil_prefix⟩
    · exact Or.inl hfront
  · refine Or.inr ⟨q, by simp, ?_⟩
    rw [List.append_cons front b rest, List.prefix_append_right_inj] at h
    exact h

/-- A line that is cut off is no `Host` line if the whole line is none. -/
lemma extract_cutLine {line p : List UInt8} (h : Passed line) (hp : p <+: line ++ [13]) :
    extractHostFromHttp p = none := by
  apply extract_openLine
  · intro hmem
    have := hp.subset hmem
    simp [h.newline] at this
  · intro hstart
    rcases List.prefix_concat_iff.mp (hstart.trans hp) with heq | hline
    · have hmem : (13 : UInt8) ∈ hostPrefix := by simp [heq]
      revert hmem
      decide
    · exact h.other hline

/-- A prefix of lines that are passed over, and of something that has no `Host` line either. -/
lemma extract_cutLines {lines : List (List UInt8)} (h : ∀ line ∈ lines, Passed line) {rest : List UInt8}
    (hrest : ∀ q, q <+: rest → extractHostFromHttp q = none) {p : List UInt8}
    (hp : p <+: lines.flatMap (· ++ crlf) ++ rest) : extractHostFromHttp p = none := by
  induction lines generalizing p with
  | nil => exact hrest p hp
  | cons line lines ih =>
      rw [List.forall_mem_cons] at h
      have hline : (line :: lines).flatMap (· ++ crlf) ++ rest =
          (line ++ [13]) ++ 10 :: (lines.flatMap (· ++ crlf) ++ rest) := by
        simp [crlf]
      rw [hline] at hp
      rcases prefix_cases hp with hcut | ⟨q, rfl, hq⟩
      · exact extract_cutLine h.1 hcut
      · have hbytes : line ++ [13] ++ 10 :: q = line ++ crlf ++ q := by simp [crlf]
        by_cases hvalid : Valid (line ++ crlf ++ q)
        · rw [hbytes, extract_passed h.1 hvalid]
          exact ih h.2 hq
        · rw [hbytes]
          exact extract_of_not_valid hvalid

/-- A line end that is cut has no host. -/
lemma extract_cutCrlf {q : List UInt8} (h : q <+: crlf) : extractHostFromHttp q = none := by
  rcases List.prefix_concat_iff.mp (show q <+: [13] ++ [10] from h) with rfl | hcut
  · exact extract_blank []
  · have hnewline : 10 ∉ q := fun hmem => by simpa using hcut.subset hmem
    refine extract_openLine hnewline fun hstart => ?_
    have hmem := (hstart.trans hcut).subset (a := 58) (by decide)
    revert hmem
    decide

/-- A field name that is cut has no host. -/
lemma extract_cutPrefix {q : List UInt8} (h : q <+: encode "Host".toList) :
    extractHostFromHttp q = none := by
  have hnewline : 10 ∉ q := fun hmem => absurd (h.subset hmem) (by decide)
  exact extract_openLine hnewline fun hstart =>
    absurd ((hstart.trans h).subset (a := 58) (by decide)) (by decide)

/-- A `\r` whose `\n` is missing is a blank at the end of the value. -/
lemma hostOfValue_return {value : List UInt8} (hvalid : Valid value) :
    hostOfValue (value ++ [13]) = hostOfValue value := by
  obtain ⟨text, rfl⟩ := valid_iff.mp hvalid
  have hbytes : encode text ++ [13] = encode (text ++ ['\r']) := (encode_append text ['\r']).symm
  have htrim : trim (text ++ ['\r']) = trim text := trim_append_blank (by simp [isWhitespace])
  rw [hbytes, hostOfValue, hostOfValue, decode_encode, decode_encode, Option.map_some, Option.map_some,
    hostOfText, hostOfText, htrim]

/-- A prefix that ends before the value of the first `Host` field gives nothing. -/
lemma extract_beforeValue {head : Head} {f : Field} (hfield : head.hostField? = some f) {p : List UInt8}
    (hp : p <+: head.bytes)
    (hfront : ¬ head.linesBefore.flatMap (· ++ crlf) ++ hostPrefix <+: p) :
    extractHostFromHttp p = none := by
  obtain ⟨hpassed, -, -, rest, hbytes⟩ := Head.exists_bytes_eq hfield
  have hcolon : head.bytes =
      (head.linesBefore.flatMap (· ++ crlf) ++ encode "Host".toList) ++
        58 :: (f.value ++ crlf ++ rest) := by
    have hstart : hostPrefix = encode "Host".toList ++ [58] := rfl
    rw [hbytes, hstart]
    simp
  rw [hcolon] at hp
  rcases prefix_cases hp with hcut | ⟨q, rfl, -⟩
  · exact extract_cutLines hpassed (fun q hq => extract_cutPrefix hq) hcut
  · refine absurd ⟨q, ?_⟩ hfront
    have hstart : hostPrefix = encode "Host".toList ++ [58] := rfl
    rw [hstart]
    simp

/-- A longer prefix gives the host of the part of the value that it shows. -/
lemma exists_shown {head : Head} {f : Field} (hfield : head.hostField? = some f) {p : List UInt8}
    (hp : p <+: head.bytes) (hfront : head.linesBefore.flatMap (· ++ crlf) ++ hostPrefix <+: p)
    (hvalid : Valid p) :
    ∃ value, value <+: f.value ∧ Valid value ∧ extractHostFromHttp p = hostOfValue value ∧
      (p = head.linesBefore.flatMap (· ++ crlf) ++ hostPrefix ++ value ∨ value = f.value) := by
  obtain ⟨hpassed, -, -, rest, hbytes⟩ := Head.exists_bytes_eq hfield
  obtain ⟨q, rfl⟩ := hfront
  have hnewline : 10 ∉ f.value := f.inLine.2
  have hq : q <+: f.value ++ 13 :: (10 :: rest) := by
    rw [hbytes, List.append_assoc] at hp
    simpa [crlf] using hp
  rw [List.append_assoc] at hvalid
  have hextract := extract_passedLines hpassed hvalid
  have htail := (valid_lines.mp hvalid).2
  rw [List.append_assoc, hextract]
  rcases prefix_cases hq with hcut | ⟨q', rfl, hq'⟩
  · refine ⟨q, hcut, valid_encode_append.mp htail, ?_, Or.inl (List.append_assoc _ _ _).symm⟩
    exact extract_openHostLine fun hmem => hnewline (hcut.subset hmem)
  · have hvalue : Valid f.value :=
      ((valid_append_cons (by decide)).mp (valid_encode_append.mp htail)).1
    refine ⟨f.value, List.prefix_rfl, hvalue, ?_, Or.inr rfl⟩
    rcases @prefix_cases _ [] _ _ hq' with hcut | ⟨q'', rfl, -⟩
    · rw [List.prefix_nil.mp hcut, extract_openHostLine (by simp [hnewline]), hostOfValue_return hvalue]
    · have hline : hostPrefix ++ (f.value ++ 13 :: ([] ++ 10 :: q'')) =
          hostPrefix ++ f.value ++ crlf ++ q'' := by
        simp [crlf]
      rw [hline] at htail ⊢
      exact extract_hostLine hnewline htail

/-- A prefix that ends in the value gives the host of what it shows of it. -/
lemma extract_shown {head : Head} {f : Field} (hfield : head.hostField? = some f)
    {shown missing : List Char} (hvalue : encode (shown ++ missing) = f.value)
    (hvalid : Valid (head.linesBefore.flatMap (· ++ crlf) ++ hostPrefix ++ encode shown)) :
    extractHostFromHttp (head.linesBefore.flatMap (· ++ crlf) ++ hostPrefix ++ encode shown) =
      some (String.ofList (hostOfText shown)) := by
  obtain ⟨hpassed, -⟩ := Head.exists_bytes_eq hfield
  have hnewline : 10 ∉ encode shown := by
    intro hmem
    refine f.inLine.2 ?_
    rw [← hvalue, encode_append]
    exact List.mem_append_left _ hmem
  rw [List.append_assoc] at hvalid ⊢
  rw [extract_passedLines hpassed hvalid, extract_openHostLine hnewline, hostOfValue, decode_encode,
    Option.map_some]

/-- The prefix cannot be taken for a request to another host: it ends before the value of the first
`Host` field, or inside a character; or the head is UTF-8, and where the prefix ends in that value, it
shows the host whole. -/
def Stable (head : Head) (p : List UInt8) : Prop :=
  ∀ front value, head.hostFront? = some (front, value) → front <+: p → Valid p →
    Valid head.bytes ∧
      ∀ shown missing, encode (shown ++ missing) = value → p = front ++ encode shown →
        HostShown shown missing

/-- For every head and every prefix of it: a host that the prefix gives is given by the head as well
exactly when the prefix is stable. -/
theorem extractHost_stable_iff (head : Head) (p : List UInt8) (hp : p <+: head.bytes) :
    (∀ host, extractHostFromHttp p = some host → extractHostFromHttp head.bytes = some host) ↔
      Stable head p := by
  have hwhole := extract_head head []
  rw [List.append_nil] at hwhole
  unfold Stable Head.hostFront?
  cases hfield : head.hostField? with
  | none =>
      have hnone : extractHostFromHttp p = none :=
        extract_cutLines (Head.passed_lines hfield) (fun q hq => extract_cutCrlf hq) hp
      simp [hnone]
  | some f =>
      simp only [Option.map_some, Option.some.injEq, Prod.mk.injEq]
      constructor
      · rintro h front value ⟨rfl, rfl⟩ hfront hvalid
        obtain ⟨value, -, hvalue, hextract, -⟩ := exists_shown hfield hp hfront hvalid
        obtain ⟨text, rfl⟩ := valid_iff.mp hvalue
        rw [hostOfValue, decode_encode] at hextract
        have hhead : Valid head.bytes := by
          by_contra hnot
          have hsome := h _ hextract
          rw [hwhole, if_neg hnot] at hsome
          cases hsome
        refine ⟨hhead, fun shown missing hboth hshown => ?_⟩
        have hcut := extract_shown hfield hboth (hshown ▸ hvalid)
        rw [← hshown] at hcut
        have hsome := h _ hcut
        rw [hwhole, if_pos hhead, Head.host?_eq hfield hboth, Option.some.injEq] at hsome
        exact hostOfText_append_iff.mp (String.ofList_injective hsome)
      · intro h host hhost
        have hfront : head.linesBefore.flatMap (· ++ crlf) ++ hostPrefix <+: p := by
          by_contra hnot
          rw [extract_beforeValue hfield hp hnot] at hhost
          cases hhost
        have hvalid : Valid p := by
          by_contra hnot
          rw [extract_of_not_valid hnot] at hhost
          cases hhost
        obtain ⟨hhead, hshown⟩ := h _ _ ⟨rfl, rfl⟩ hfront hvalid
        obtain ⟨text, htext⟩ := Head.exists_text hfield hhead
        obtain ⟨value, ⟨more, hmore⟩, hvalue, hextract, hcut⟩ := exists_shown hfield hp hfront hvalid
        obtain ⟨shown, rfl⟩ := valid_iff.mp hvalue
        rw [← htext] at hmore
        obtain ⟨missing, rfl, -⟩ := exists_of_encode_append hmore
        rw [hextract, hostOfValue, decode_encode, Option.map_some] at hhost
        rw [hwhole, if_pos hhead, Head.host?_eq hfield htext, ← hhost]
        have hsame : hostOfText (shown ++ missing) = hostOfText shown := by
          rcases hcut with hcut | hcut
          · exact hostOfText_append_iff.mpr (hshown shown missing htext hcut)
          · exact congrArg hostOfText (encode_injective (htext.trans hcut.symm))
        rw [hsame]

/-- The beginning of a request for `b.example`, up to the middle of the name. -/
def cutHead : List UInt8 := hostHead.bytes.take 54

/-- The host of the head that is cut. -/
lemma extract_cutHead : extractHostFromHttp cutHead = some "b.exam" := by decide +kernel

/-- The host of the whole head. -/
lemma extract_hostHead : extractHostFromHttp hostHead.bytes = some "b.example" := by decide +kernel

/-- The two hosts differ. -/
lemma cutHead_ne : some "b.example" ≠ some "b.exam" := by decide

/-- The host changes as the head comes in. -/
theorem extractHost_stable_sample : ¬ Stable hostHead cutHead := by
  rw [← extractHost_stable_iff hostHead cutHead (List.take_prefix 54 hostHead.bytes)]
  intro h
  exact cutHead_ne (extract_hostHead.symm.trans (h _ extract_cutHead))

/-- The host of the beginning is one that the request does not name. -/
theorem cut_host_is_used :
    ¬ ∀ (head : Head) (p : List UInt8) (host : String), p <+: head.bytes →
      extractHostFromHttp p = some host → extractHostFromHttp head.bytes = some host := by
  intro h
  have hsame := h hostHead cutHead _ (List.take_prefix 54 hostHead.bytes) extract_cutHead
  exact cutHead_ne (extract_hostHead.symm.trans hsame)

end RustProxy.Server.PartialPeek
