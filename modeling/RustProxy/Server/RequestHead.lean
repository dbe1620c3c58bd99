import RustProxy.Foundation.Utf8
import RustProxy.Server.HostNames

/-!
# Request heads, and the host that is read from them

The head of an HTTP/1.1 request, line by line, and the host that it names.

* A head is a request line and fields; names are tokens, values are any octets of one line.
* `extract_passed` and `extract_hostLine` follow the loop of `extract_host_from_http` over the lines of
  its input: a line that is neither empty nor a `Host` line is passed over, a `Host` line ends it.
* `extractHost_correct` says that the function finds the host of the first `Host` field.
-/

namespace RustProxy.Server.RequestHead

open HostNames Utf8

/-! ## Heads -/

/-- A character of a token. -/
def isTchar (c : Char) : Bool := c.isAlphanum || "!#$%&'*+-.^_`|~".toList.contains c

/-- A token. -/
def IsToken (s : String) : Prop := s ≠ "" ∧ ∀ c ∈ s.toList, isTchar c = true

instance (s : String) : Decidable (IsToken s) :=
  decidable_of_iff (s ≠ "" ∧ s.toList.all isTchar = true) (by simp [IsToken])

/-- Octets without CR and LF. -/
def InLine (octets : List UInt8) : Prop := 13 ∉ octets ∧ 10 ∉ octets

instance (octets : List UInt8) : Decidable (InLine octets) := inferInstanceAs (Decidable (_ ∧ _))

/-- The end of a line. -/
def crlf : List UInt8 := [13, 10]

/-- A header field. -/
structure Field where
  name : String
  value : List UInt8
  token : IsToken name
  inLine : InLine value

/-- `name ":" value` -/
def Field.line (f : Field) : List UInt8 := encode (f.name.toList ++ [':']) ++ f.value

/-- A request line and header fields. -/
structure Head where
  method : String
  target : List UInt8
  fields : List Field
  token : IsToken method
  inLine : InLine target

namespace Head

variable (head : Head)

def requestLine : List UInt8 :=
  encode (head.method.toList ++ [' ']) ++ head.target ++ encode " HTTP/1.1".toList

def lines : List (List UInt8) := head.requestLine :: head.fields.map Field.line

/-- Every line with its end, and then an empty one. -/
def bytes : List UInt8 := head.lines.flatMap (· ++ crlf) ++ crlf

/-- The first field that is spelled `Host`. -/
def hostField? : Option Field := head.fields.find? fun f => f.name = "Host"

/-- The lines in front of that field. -/
def linesBefore : List (List UInt8) :=
  head.requestLine :: (head.fields.takeWhile fun f => f.name ≠ "Host").map Field.line

end Head

/-! ## Host fields -/

/-- A space or a tab. -/
def IsOws (text : List Char) : Prop := ∀ c ∈ text, c = ' ' ∨ c = '\t'

/-- A host: a name without whitespace, `:` and `[`, or a literal in brackets. -/
inductive IsHost : List Char → Prop
  | name {host : List Char} (h : ∀ c ∈ host, isWhitespace c = false ∧ c ≠ ':' ∧ c ≠ '[') : IsHost host
  | literal {address : List Char} (h : ']' ∉ address) : IsHost ('[' :: address ++ [']'])

/-- `OWS host [":" port] OWS` -/
structure HostValue where
  before : List Char
  host : List Char
  port : Option (List Char)
  after : List Char
  ows : IsOws before ∧ IsOws after
  isHost : IsHost host

def HostValue.text (v : HostValue) : List Char :=
  v.before ++ v.host ++ (v.port.elim [] (':' :: ·)) ++ v.after

/-- The host of a value, as the function cuts it out. -/
def hostOfText (value : List Char) : List Char := withoutPort (trim value)

def hostOfValue (value : List UInt8) : Option String :=
  (decode value).map fun text => String.ofList (hostOfText text)

/-! ## Cutting the host out of a value -/

/-- Trimming leaves off blanks at the end of what begins with the first character that is none. -/
lemma exists_blanks (value : List Char) :
    ∃ blanks, (∀ c ∈ blanks, isWhitespace c = true) ∧
      value.dropWhile isWhitespace = trim value ++ blanks := by
  refine ⟨((value.dropWhile isWhitespace).reverse.takeWhile isWhitespace).reverse, ?_, ?_⟩
  · intro c hc
    exact List.mem_takeWhile_imp (List.mem_reverse.mp hc)
  · rw [trim, ← List.reverse_append, List.takeWhile_append_dropWhile, List.reverse_reverse]

/-- A text that does not begin with a blank is not trimmed in front. -/
lemma dropWhile_eq_self_of_head {text : List Char}
    (h : ∀ c, text.head? = some c → isWhitespace c = false) :
    text.dropWhile isWhitespace = text := by
  cases text with
  | nil => rfl
  | cons c rest => rw [List.dropWhile_cons_of_neg (by simp [h c rfl])]

/-- What is trimmed in front begins with no blank. -/
lemma head_dropWhile {value : List Char} {c : Char}
    (h : (value.dropWhile isWhitespace).head? = some c) : isWhitespace c = false := by
  have hhead := List.head?_dropWhile_not isWhitespace value
  rw [h] at hhead
  simpa using hhead

/-- What is not blank is kept by trimming as far as the last such character. -/
lemma exists_trim_eq {value text rest : List Char} {c : Char} (hc : isWhitespace c = false)
    (h : value.dropWhile isWhitespace = text ++ c :: rest) :
    ∃ rest', trim value = text ++ c :: rest' := by
  obtain ⟨blanks, hblanks, htrim⟩ := exists_blanks value
  rw [h] at htrim
  rcases List.append_eq_append_iff.mp htrim with ⟨more, htext, hmore⟩ | ⟨more, htext, hmore⟩
  · cases more with
    | nil =>
        have := hblanks c (by rw [List.nil_append] at hmore; rw [← hmore]; exact List.mem_cons_self)
        simp [this] at hc
    | cons c' more =>
        obtain ⟨rfl, -⟩ := List.cons_eq_cons.mp hmore
        exact ⟨more, htext⟩
  · have := hblanks c (by rw [hmore]; simp)
    simp [this] at hc

/-- The host ends at the colon. -/
lemma hostOfText_of_colon {value name rest : List Char}
    (h : value.dropWhile isWhitespace = name ++ ':' :: rest) (hname : ':' ∉ name)
    (hhead : name.head? ≠ some '[') : hostOfText value = name := by
  obtain ⟨rest', htrim⟩ := exists_trim_eq (by decide) h
  have hopen : (name ++ ':' :: rest').head? ≠ some '[' := by
    cases name with
    | nil => simp
    | cons c name => simpa using hhead
  rw [hostOfText, htrim, withoutPort, if_neg hopen, List.takeWhile_append_of_pos]
  · simp
  · intro c hc
    simp only [ne_eq, decide_not, Bool.not_eq_true', decide_eq_false_iff_not]
    rintro rfl
    exact hname hc

/-- A host in brackets ends with them. -/
lemma hostOfText_of_bracket {value address rest : List Char}
    (h : value.dropWhile isWhitespace = '[' :: address ++ ']' :: rest) (haddress : ']' ∉ address) :
    hostOfText value = '[' :: address ++ [']'] := by
  obtain ⟨rest', htrim⟩ := exists_trim_eq (by decide) h
  have hall : ∀ c ∈ '[' :: address, decide (c ≠ ']') = true := by
    intro c hc
    simp only [ne_eq, decide_not, Bool.not_eq_true', decide_eq_false_iff_not]
    rintro rfl
    simp [haddress] at hc
  have hopen : ('[' :: address ++ ']' :: rest').head? = some '[' := rfl
  rw [hostOfText, htrim, withoutPort, if_pos hopen, if_pos (by simp), List.takeWhile_append_of_pos hall]
  simp

/-- The character that ends the host of a value. -/
def closing (value : List Char) : Char :=
  if (value.dropWhile isWhitespace).head? = some '[' then ']' else ':'

/-- Trimming at the end keeps the first character. -/
lemma head_trim (value : List Char) : (trim value).head? = (value.dropWhile isWhitespace).head? := by
  obtain ⟨blanks, hblanks, htrim⟩ := exists_blanks value
  cases ht : trim value with
  | cons c rest => rw [htrim, ht]; rfl
  | nil =>
      rw [htrim, ht, List.nil_append]
      cases blanks with
      | nil => rfl
      | cons c rest =>
          have hhead : (value.dropWhile isWhitespace).head? = some c := by
            rw [htrim, ht]
            rfl
          have hfalse := head_dropWhile hhead
          rw [hblanks c List.mem_cons_self] at hfalse
          cases hfalse

/-- A value in which nothing ends the host is host from end to end, save the blanks around it. -/
lemma hostOfText_of_open {value : List Char} (h : closing value ∉ value) :
    hostOfText value = trim value := by
  have hsub : ∀ c ∈ trim value, c ∈ value := by
    intro c hc
    obtain ⟨blanks, -, htrim⟩ := exists_blanks value
    exact (List.dropWhile_suffix isWhitespace).subset (htrim ▸ List.mem_append_left blanks hc)
  unfold closing at h
  rw [hostOfText, withoutPort, head_trim]
  by_cases hopen : (value.dropWhile isWhitespace).head? = some '['
  · rw [if_pos hopen] at h
    rw [if_pos hopen, if_neg fun hc => h (hsub _ hc)]
  · rw [if_neg hopen] at h
    rw [if_neg hopen, List.takeWhile_eq_self_iff]
    intro c hc
    simp only [ne_eq, decide_not, Bool.not_eq_true', decide_eq_false_iff_not]
    rintro rfl
    exact h (hsub _ hc)

/-- Blanks at the end are trimmed. -/
lemma trim_append_blank {text blanks : List Char} (h : ∀ c ∈ blanks, isWhitespace c = true) :
    trim (text ++ blanks) = trim text := by
  have hreverse : ∀ c ∈ blanks.reverse, isWhitespace c = true := by simpa using h
  by_cases hblank : ∀ c ∈ text, isWhitespace c = true
  · have hboth : ∀ c ∈ text ++ blanks, isWhitespace c = true := by
      simpa [or_imp, forall_and] using ⟨hblank, h⟩
    rw [trim, trim, List.dropWhile_eq_nil_iff.mpr hboth, List.dropWhile_eq_nil_iff.mpr hblank]
  · rw [trim, List.dropWhile_append, if_neg, List.reverse_append, List.dropWhile_append_of_pos hreverse,
      trim]
    rw [List.isEmpty_iff, List.dropWhile_eq_nil_iff]
    exact hblank

/-- Optional white space is white. -/
lemma isWhitespace_of_ows {text : List Char} (h : IsOws text) : ∀ c ∈ text, isWhitespace c = true := by
  intro c hc
  rcases h c hc with rfl | rfl <;> decide

/-- The host of a value of the grammar is what the function cuts out. -/
theorem HostValue.hostOfText_text (v : HostValue) : hostOfText v.text = v.host := by
  obtain ⟨before, host, port, after, ⟨hbefore, hafter⟩, hhost⟩ := v
  show hostOfText (before ++ host ++ port.elim [] (':' :: ·) ++ after) = host
  have hdrop : ∀ text : List Char, (before ++ text).dropWhile isWhitespace =
      text.dropWhile isWhitespace :=
    fun text => List.dropWhile_append_of_pos (isWhitespace_of_ows hbefore)
  rw [List.append_assoc, List.append_assoc]
  cases hhost with
  | @literal address haddress =>
      refine hostOfText_of_bracket (?_ : _ = _ ++ ']' :: (port.elim [] (':' :: ·) ++ after)) haddress
      rw [hdrop, dropWhile_eq_self_of_head]
      · simp
      · rintro c ⟨⟩
        decide
  | name hname =>
      have hcolon : ':' ∉ host := fun hmem => (hname _ hmem).2.1 rfl
      have hopen : host.head? ≠ some '[' := fun hhead => (hname _ (List.mem_of_mem_head? hhead)).2.2 rfl
      cases port with
      | some port =>
          refine hostOfText_of_colon (?_ : _ = _ ++ ':' :: (port ++ after)) hcolon hopen
          rw [hdrop, dropWhile_eq_self_of_head]
          · simp
          · intro c hc
            cases host with
            | nil =>
                cases hc
                decide
            | cons c' host =>
                cases hc
                exact (hname c List.mem_cons_self).1
      | none =>
          have hblank := isWhitespace_of_ows hafter
          have htrim : trim (before ++ (host ++ ([] ++ after))) = host := by
            rw [trim, hdrop, ← trim, List.nil_append, trim_append_blank hblank,
              trim_eq fun c hc => (hname c hc).1]
          rw [Option.elim_none, hostOfText_of_open, htrim]
          have hclosing : closing (before ++ (host ++ ([] ++ after))) = ':' := by
            rw [closing, if_neg]
            rw [← head_trim, htrim]
            exact hopen
          rw [hclosing]
          simp only [List.nil_append, List.mem_append, not_or]
          exact ⟨fun hmem => by simpa using hbefore _ hmem, hcolon,
            fun hmem => by simpa using hafter _ hmem⟩

/-! ## Lines -/

/-- The host is that of the first line that has one. -/
lemma extract_eq (data : List UInt8) :
    extractHostFromHttp data =
      (decode data).bind fun text => (hostOfLines (HostNames.lines text)).map String.ofList := by
  unfold extractHostFromHttp decode fromUtf8
  cases String.fromUTF8? ⟨data.toArray⟩ with
  | none => rfl
  | some s =>
      show ((hostOfLines (HostNames.lines s.toList)).bind fun host => some (String.ofList host)) =
        (hostOfLines (HostNames.lines s.toList)).map String.ofList
      rw [Option.map_eq_bind]
      rfl

/-- Invalid bytes have no host. -/
lemma extract_of_not_valid {data : List UInt8} (h : ¬ Valid data) :
    extractHostFromHttp data = none := by
  rw [Valid, Bool.not_eq_true, Option.isSome_eq_false_iff, Option.isNone_iff_eq_none] at h
  rw [extract_eq, h]
  rfl

/-- A line ends at its line end. -/
lemma linesFrom_append {line : List Char} (h : '\n' ∉ line) (reversed rest : List Char) :
    linesFrom reversed (line ++ '\n' :: rest) =
      endLine (line.reverse ++ reversed) :: HostNames.lines rest := by
  induction line generalizing reversed with
  | nil => rfl
  | cons c line ih =>
      rw [List.mem_cons, not_or] at h
      rw [List.cons_append, linesFrom, if_neg (Ne.symm h.1), ih h.2, List.reverse_cons,
        List.append_assoc]
      rfl

/-- A line that ends in CRLF is the first of the lines. -/
lemma lines_crlf {line : List Char} (h : '\n' ∉ line) (rest : List Char) :
    HostNames.lines (line ++ '\r' :: '\n' :: rest) = line :: HostNames.lines rest := by
  have hline : '\n' ∉ line ++ ['\r'] := by simp [h]
  have hlines := linesFrom_append hline [] rest
  simpa [HostNames.lines, endLine] using hlines

/-- A prefix is taken off. -/
lemma isPrefixOf?_append (pre rest : List Char) : pre.isPrefixOf? (pre ++ rest) = some rest := by
  induction pre with
  | nil => rfl
  | cons c pre ih => simp [List.isPrefixOf?, ih]

/-- What is no prefix is not taken off. -/
lemma isPrefixOf?_eq_none {pre text : List Char} (h : ¬ pre <+: text) :
    pre.isPrefixOf? text = none := by
  induction pre generalizing text with
  | nil => exact absurd (List.nil_prefix) h
  | cons c pre ih =>
      cases text with
      | nil => rfl
      | cons c' text =>
          rw [List.cons_prefix_cons, not_and] at h
          by_cases hc : c = c'
          · simp [List.isPrefixOf?, hc, ih (h hc)]
          · simp [List.isPrefixOf?, hc]

/-! ## The loop over the lines -/

/-- The beginning of a `Host` line. -/
def hostPrefix : List UInt8 := encode "Host:".toList

/-- A line that the loop passes over. -/
structure Passed (line : List UInt8) : Prop where
  nonempty : line ≠ []
  other : ¬ hostPrefix <+: line
  newline : 10 ∉ line

/-- The bytes of a head up to the value of its first `Host` field, and that value. -/
def Head.hostFront? (head : Head) : Option (List UInt8 × List UInt8) :=
  head.hostField?.map fun f => (head.linesBefore.flatMap (· ++ crlf) ++ hostPrefix, f.value)

/-- A text without the byte has no line end. -/
lemma newline_not_mem {text : List Char} (h : 10 ∉ encode text) : '\n' ∉ text :=
  fun hmem => h ((mem_encode_iff (b := 10) (by decide)).mpr hmem)

/-- Validity can be cut at a line end. -/
lemma valid_crlf {line rest : List UInt8} : Valid (line ++ crlf ++ rest) ↔ Valid line ∧ Valid rest := by
  have hnewline : Valid (10 :: rest) ↔ Valid [] ∧ Valid rest :=
    @valid_append_cons [] rest 10 (by decide)
  have hempty : Valid [] := valid_encode []
  have hreturn : Valid (line ++ 13 :: (10 :: rest)) ↔ Valid line ∧ Valid (10 :: rest) :=
    valid_append_cons (by decide)
  rw [crlf, List.append_assoc]
  show Valid (line ++ 13 :: (10 :: rest)) ↔ _
  rw [hreturn, hnewline]
  simp [hempty]

/-- A line and the rest, encoded. -/
lemma encode_crlf (line rest : List Char) :
    encode (line ++ '\r' :: '\n' :: rest) = encode line ++ crlf ++ encode rest := by
  rw [encode_append, List.append_assoc]
  rfl

/-- A line without the host is passed over. -/
lemma extract_passed {line : List UInt8} (h : Passed line) {rest : List UInt8}
    (hvalid : Valid (line ++ crlf ++ rest)) :
    extractHostFromHttp (line ++ crlf ++ rest) = extractHostFromHttp rest := by
  obtain ⟨hline, hrest⟩ := valid_crlf.mp hvalid
  obtain ⟨line, rfl⟩ := valid_iff.mp hline
  obtain ⟨rest, rfl⟩ := valid_iff.mp hrest
  have hnonempty : line ≠ [] := by
    rintro rfl
    exact h.nonempty rfl
  have hother : ¬ "Host:".toList <+: line := fun hpre => h.other (encode_prefix_iff.mpr hpre)
  rw [← encode_crlf, extract_eq, extract_eq, decode_encode, decode_encode, Option.bind_some,
    Option.bind_some, lines_crlf (newline_not_mem h.newline), hostOfLines, isPrefixOf?_eq_none hother]
  simp [hnonempty]

/-- The line of the host gives the host. -/
lemma hostOfLines_host (value : List Char) (lines : List (List Char)) :
    hostOfLines (("Host:".toList ++ value) :: lines) = some (hostOfText value) := by
  rw [hostOfLines, isPrefixOf?_append]
  rfl

/-- The line of the host gives the host, whatever follows. -/
lemma extract_hostLine {value rest : List UInt8} (h : 10 ∉ value)
    (hvalid : Valid (hostPrefix ++ value ++ crlf ++ rest)) :
    extractHostFromHttp (hostPrefix ++ value ++ crlf ++ rest) = hostOfValue value := by
  obtain ⟨hline, hrest⟩ := valid_crlf.mp hvalid
  obtain ⟨rest, rfl⟩ := valid_iff.mp hrest
  obtain ⟨value, rfl⟩ := valid_iff.mp (valid_encode_append.mp hline)
  have hnewline : '\n' ∉ "Host:".toList ++ value := by
    rw [List.mem_append, not_or]
    exact ⟨by decide, newline_not_mem h⟩
  rw [hostPrefix, ← encode_append, ← encode_crlf, extract_eq, decode_encode, Option.bind_some,
    lines_crlf hnewline, hostOfLines_host, hostOfValue, decode_encode]
  rfl

/-- The empty line ends the loop. -/
lemma extract_blank (rest : List UInt8) : extractHostFromHttp (crlf ++ rest) = none := by
  by_cases hvalid : Valid (crlf ++ rest)
  · obtain ⟨-, hrest⟩ := (@valid_crlf [] rest).mp hvalid
    obtain ⟨rest, rfl⟩ := valid_iff.mp hrest
    have hbytes : crlf ++ encode rest = encode ([] ++ '\r' :: '\n' :: rest) :=
      (encode_crlf [] rest).symm
    rw [hbytes, extract_eq, decode_encode, Option.bind_some, lines_crlf List.not_mem_nil]
    rfl
  · exact extract_of_not_valid hvalid

/-- A last line without an end is a line as well. -/
lemma extract_openHostLine {value : List UInt8} (h : 10 ∉ value) :
    extractHostFromHttp (hostPrefix ++ value) = hostOfValue value := by
  by_cases hvalid : Valid value
  · obtain ⟨value, rfl⟩ := valid_iff.mp hvalid
    have hnewline : '\n' ∉ "Host:".toList ++ value := by
      rw [List.mem_append, not_or]
      exact ⟨by decide, newline_not_mem h⟩
    rw [hostPrefix, ← encode_append, extract_eq, decode_encode, Option.bind_some,
      lines_eq (by simp) hnewline, hostOfLines_host, hostOfValue, decode_encode]
    rfl
  · have hline : ¬ Valid (hostPrefix ++ value) := fun hboth => hvalid (valid_encode_append.mp hboth)
    rw [extract_of_not_valid hline]
    rw [Valid, Bool.not_eq_true, Option.isSome_eq_false_iff, Option.isNone_iff_eq_none] at hvalid
    rw [hostOfValue, hvalid]
    rfl

/-- A line that does not end gives no host unless it is the field. -/
lemma extract_openLine {line : List UInt8} (hnewline : 10 ∉ line) (h : ¬ hostPrefix <+: line) :
    extractHostFromHttp line = none := by
  by_cases hvalid : Valid line
  · obtain ⟨line, rfl⟩ := valid_iff.mp hvalid
    rw [extract_eq, decode_encode, Option.bind_some]
    cases line with
    | nil => rfl
    | cons c line =>
        have hother : ¬ "Host:".toList <+: c :: line := fun hpre => h (encode_prefix_iff.mpr hpre)
        rw [lines_eq (List.cons_ne_nil c line) (newline_not_mem hnewline), hostOfLines,
          isPrefixOf?_eq_none hother]
        rfl
  · exact extract_of_not_valid hvalid

/-! ## The lines of a head -/

/-- No separator stands in a token. -/
lemma not_mem_token {s : String} (h : IsToken s) {b : UInt8} (hb : b < 128)
    (hchar : isTchar (Char.ofUInt8 b) = false) : b ∉ encode s.toList := by
  intro hmem
  have htchar := h.2 _ ((mem_encode_iff hb).mp hmem)
  rw [hchar] at htchar
  cases htchar

/-- The part of a list in front of an element. -/
lemma takeWhile_ne {α : Type*} [DecidableEq α] {c : α} {front : List α} (h : c ∉ front)
    (rest : List α) : (front ++ c :: rest).takeWhile (· ≠ c) = front := by
  rw [List.takeWhile_append_of_pos, List.takeWhile_cons_of_neg (by simp), List.append_nil]
  intro b hb
  simp only [ne_eq, decide_not, Bool.not_eq_true', decide_eq_false_iff_not]
  rintro rfl
  exact h hb

/-- The name of the field, up to the colon. -/
lemma takeWhile_of_hostPrefix {line : List UInt8} (h : hostPrefix <+: line) :
    line.takeWhile (· ≠ 58) = encode "Host".toList := by
  obtain ⟨rest, rfl⟩ := h
  have hcolon : 58 ∉ encode "Host".toList := by decide
  exact takeWhile_ne hcolon rest

/-- Name, colon and value. -/
lemma Field.line_eq (f : Field) : f.line = encode f.name.toList ++ 58 :: f.value := by
  rw [line, encode_append, List.append_assoc]
  rfl

/-- The line of the host field. -/
lemma Field.line_of_host {f : Field} (h : f.name = "Host") : f.line = hostPrefix ++ f.value := by
  rw [line, h]
  rfl

/-- Only the name `Host` itself makes a field's line a `Host` line. -/
lemma Field.passed {f : Field} (h : f.name ≠ "Host") : Passed f.line where
  nonempty := by simp [f.line_eq]
  other := by
    intro hstart
    have hname := takeWhile_of_hostPrefix hstart
    rw [f.line_eq, takeWhile_ne (not_mem_token f.token (by decide) (by decide))] at hname
    exact h (String.toList_injective (encode_injective hname))
  newline := by
    rw [f.line_eq, List.mem_append, List.mem_cons, not_or, not_or]
    exact ⟨not_mem_token f.token (by decide) (by decide), by decide, f.inLine.2⟩

/-- Method, target and version. -/
lemma Head.requestLine_eq (head : Head) : head.requestLine =
    encode head.method.toList ++ 32 :: (head.target ++ encode " HTTP/1.1".toList) := by
  rw [requestLine, encode_append, List.append_assoc, List.append_assoc]
  rfl

/-- The method of a request is a token, so no request line is a `Host` line. -/
lemma Head.passed_requestLine (head : Head) : Passed head.requestLine where
  nonempty := by simp [head.requestLine_eq]
  other := by
    intro hstart
    have hmethod := takeWhile_of_hostPrefix hstart
    have hspace : (32 : UInt8) ∈ head.requestLine.takeWhile (· ≠ 58) := by
      have hpos : ∀ b ∈ encode head.method.toList, decide (b ≠ 58) = true := by
        intro b hb
        simp only [ne_eq, decide_not, Bool.not_eq_true', decide_eq_false_iff_not]
        rintro rfl
        exact not_mem_token head.token (by decide) (by decide) hb
      rw [head.requestLine_eq, List.takeWhile_append_of_pos hpos,
      List.takeWhile_cons_of_pos (by decide)]
      simp
    rw [hmethod] at hspace
    revert hspace
    decide
  newline := by
    have hversion : (10 : UInt8) ∉ encode " HTTP/1.1".toList := by decide
    rw [head.requestLine_eq, List.mem_append, List.mem_cons, List.mem_append, not_or, not_or, not_or]
    exact ⟨not_mem_token head.token (by decide) (by decide), by decide, head.inLine.2, hversion⟩

/-! ## The host of a head -/

/-- Validity of lines and of what follows. -/
lemma valid_lines {lines : List (List UInt8)} {rest : List UInt8} :
    Valid (lines.flatMap (· ++ crlf) ++ rest) ↔ (∀ line ∈ lines, Valid line) ∧ Valid rest := by
  induction lines with
  | nil => simp
  | cons line lines ih =>
      rw [List.flatMap_cons, List.append_assoc, valid_crlf, ih, List.forall_mem_cons, and_assoc]

/-- Lines that are passed over, with their ends. -/
lemma extract_passedLines {lines : List (List UInt8)} (h : ∀ line ∈ lines, Passed line)
    {rest : List UInt8} (hvalid : Valid (lines.flatMap (· ++ crlf) ++ rest)) :
    extractHostFromHttp (lines.flatMap (· ++ crlf) ++ rest) = extractHostFromHttp rest := by
  induction lines with
  | nil => rfl
  | cons line lines ih =>
      rw [List.forall_mem_cons] at h
      rw [List.flatMap_cons, List.append_assoc] at hvalid ⊢
      rw [extract_passed h.1 hvalid, ih h.2 (valid_crlf.mp hvalid).2]

/-- The host that a head names. -/
def Head.host? (head : Head) : Option String := head.hostField?.bind fun f => hostOfValue f.value

/-- The bytes of a head around its first `Host` field, whose line is the first that is not passed
over. -/
lemma Head.exists_bytes_eq {head : Head} {f : Field} (h : head.hostField? = some f) :
    (∀ line ∈ head.linesBefore, Passed line) ∧ f.name = "Host" ∧ f.line ∈ head.lines ∧
      ∃ rest, head.bytes =
        head.linesBefore.flatMap (· ++ crlf) ++ (hostPrefix ++ f.value ++ crlf ++ rest) := by
  obtain ⟨hname, before, after, hfields, hbefore⟩ := List.find?_eq_some_iff_append.mp h
  have hname : f.name = "Host" := of_decide_eq_true hname
  have hlines : head.linesBefore = head.requestLine :: before.map Field.line := by
    rw [linesBefore, hfields, List.takeWhile_append_of_pos,
      List.takeWhile_cons_of_neg (by simp [hname]), List.append_nil]
    intro g hg
    simpa using hbefore g hg
  refine ⟨?_, hname, by simp [lines, hfields], (after.map Field.line).flatMap (· ++ crlf) ++ crlf, ?_⟩
  · rw [hlines, List.forall_mem_cons, List.forall_mem_map]
    exact ⟨head.passed_requestLine, fun g hg => Field.passed (by simpa using hbefore g hg)⟩
  · simp [hlines, bytes, lines, hfields, Field.line_of_host hname]

/-- A head without the field passes all of its lines over. -/
lemma Head.passed_lines {head : Head} (h : head.hostField? = none) :
    ∀ line ∈ head.lines, Passed line := by
  rw [lines, List.forall_mem_cons, List.forall_mem_map]
  refine ⟨head.passed_requestLine, fun f hf => Field.passed ?_⟩
  simpa using List.find?_eq_none.mp h f hf

/-- Behind a head in UTF-8 anything may follow that is UTF-8 as well; the host is the one that the head
names. -/
theorem extract_head (head : Head) (body : List UInt8) :
    extractHostFromHttp (head.bytes ++ body) =
      if Valid (head.bytes ++ body) then head.host? else none := by
  split
  case isFalse hvalid => exact extract_of_not_valid hvalid
  case isTrue hvalid =>
      rw [Head.host?]
      cases hfield : head.hostField? with
      | none =>
          rw [Head.bytes, List.append_assoc] at hvalid ⊢
          rw [extract_passedLines (Head.passed_lines hfield) hvalid, extract_blank]
          rfl
      | some f =>
          obtain ⟨hpassed, -, -, rest, hbytes⟩ := Head.exists_bytes_eq hfield
          have hsplit : head.bytes ++ body = head.linesBefore.flatMap (· ++ crlf) ++
              (hostPrefix ++ f.value ++ crlf ++ (rest ++ body)) := by
            rw [hbytes]
            simp
          rw [hsplit] at hvalid ⊢
          have hnewline : 10 ∉ f.value := f.inLine.2
          rw [extract_passedLines hpassed hvalid, extract_hostLine hnewline (valid_lines.mp hvalid).2]
          rfl

/-- Validity of a head and its body. -/
lemma valid_head_append {head : Head} {body : List UInt8} :
    Valid (head.bytes ++ body) ↔ Valid head.bytes ∧ Valid body := by
  have hempty : Valid [] := valid_encode []
  have hhead : Valid head.bytes ↔ Valid (head.lines.flatMap (· ++ crlf)) ∧ Valid [] := by
    rw [← valid_crlf, List.append_nil, Head.bytes]
  rw [hhead, Head.bytes, valid_crlf]
  simp [hempty]

/-- In a head that is UTF-8 the value of the `Host` field is. -/
lemma Head.exists_text {head : Head} {f : Field} (h : head.hostField? = some f)
    (hvalid : Valid head.bytes) : ∃ text, encode text = f.value := by
  obtain ⟨-, hname, hmem, -⟩ := exists_bytes_eq h
  rw [bytes] at hvalid
  have hline := (valid_lines.mp hvalid).1 f.line hmem
  rw [Field.line_of_host hname] at hline
  exact valid_iff.mp (valid_encode_append.mp hline)

/-- The host of a head with the field. -/
lemma Head.host?_eq {head : Head} {f : Field} (h : head.hostField? = some f) {text : List Char}
    (hvalue : encode text = f.value) : head.host? = some (String.ofList (hostOfText text)) := by
  rw [host?, h, Option.bind_some, hostOfValue, ← hvalue, decode_encode, Option.map_some]

/-- **The host of a request.**  For every head of ASCII octets, whatever its fields: the function
returns the host of the first `Host` field, for a value `OWS host [":" port] OWS`, and nothing when
there is no such field; and no two heads with the same first `Host` value have different results. -/
theorem extractHost_correct (head : Head) (hascii : ∀ b ∈ head.bytes, b < 128) :
    (∀ (f : Field) (v : HostValue), head.hostField? = some f → f.value = encode v.text →
      extractHostFromHttp head.bytes = some (String.ofList v.host)) ∧
    (head.hostField? = none → extractHostFromHttp head.bytes = none) ∧
    ∀ other : Head, (∀ b ∈ other.bytes, b < 128) →
      other.hostField?.map Field.value = head.hostField?.map Field.value →
        extractHostFromHttp other.bytes = extractHostFromHttp head.bytes := by
  have hextract : ∀ head : Head, (∀ b ∈ head.bytes, b < 128) →
      extractHostFromHttp head.bytes = (head.hostField?.map Field.value).bind hostOfValue := by
    intro head hascii
    have hhead := extract_head head []
    rw [List.append_nil, if_pos (valid_of_ascii hascii), Head.host?] at hhead
    rw [hhead, Option.bind_map]
    rfl
  refine ⟨fun f v hfield hvalue => ?_, fun hfield => ?_, fun other hother hsame => ?_⟩
  · rw [hextract head hascii, hfield, Option.map_some, Option.bind_some, hvalue, hostOfValue,
      decode_encode, Option.map_some, v.hostOfText_text]
  · rw [hextract head hascii, hfield]
    rfl
  · rw [hextract head hascii, hextract other hother, hsame]

/-- A value with blanks, a host and a port. -/
def spacedValue : HostValue where
  before := [' ', '\t']
  host := "b.example".toList
  port := some "8080".toList
  after := [' ']
  ows := ⟨forall_mem_of_all (by decide), forall_mem_of_all (by decide)⟩
  isHost := .name (forall_mem_of_all (by decide))

/-- A request with a field that is not the `Host` field and one that is. -/
def hostHead : Head where
  method := "GET"
  target := encode "/".toList
  fields :=
    [{ name := "X-Host", value := encode " Host: a.example".toList,
       token := by decide, inLine := by decide },
     { name := "Host", value := encode spacedValue.text,
       token := by decide, inLine := by decide }]
  token := by decide
  inLine := by decide

/-- A host in blanks, with a port. -/
theorem extractHost_correct_sample :
    extractHostFromHttp hostHead.bytes = some (String.ofList spacedValue.host) := by
  refine (extractHost_correct hostHead (forall_mem_of_all (by decide))).1 _ spacedValue rfl rfl

end RustProxy.Server.RequestHead
