import RustProxy.Core.Config

/-!
# A text for lists of domains

An instance of `DomainsJson` that can be evaluated: the JSON array of the strings, with quotes and
backslashes escaped.  Control characters, which serde_json escapes as well, are written as they are;
no domain of the runs below has one.
-/

namespace RustProxy.Core.DomainsText

/-- The characters of a string with quotes and backslashes escaped. -/
def escape : List Char → List Char
  | [] => []
  | c :: cs => if c = '"' ∨ c = '\\' then '\\' :: c :: escape cs else c :: escape cs

/-- The elements of the array and the closing bracket. -/
def elements : List String → List Char
  | [] => [']']
  | domain :: domains =>
      '"' :: escape domain.toList ++ '"' :: (if domains = [] then [] else [',']) ++ elements domains

/-- Where a reader stands: between elements, in a string, or after a backslash. -/
inductive Mode where
  | outside
  | inside (read : List Char)
  | escaped (read : List Char)

/-- Read the elements of an array. -/
def parse : Mode → List Char → Option (List String)
  | .outside, c :: cs =>
      if c = ']' then (if cs = [] then some [] else none)
      else if c = ',' then parse .outside cs
      else if c = '"' then parse (.inside []) cs
      else none
  | .inside read, c :: cs =>
      if c = '"' then (parse .outside cs).map (String.ofList read :: ·)
      else if c = '\\' then parse (.escaped read) cs
      else parse (.inside (read ++ [c])) cs
  | .escaped read, c :: cs => parse (.inside (read ++ [c])) cs
  | _, [] => none

/-- A string is read to its closing quote. -/
lemma parse_inside (cs read rest : List Char) :
    parse (.inside read) (escape cs ++ '"' :: rest) =
      (parse .outside rest).map (String.ofList (read ++ cs) :: ·) := by
  induction cs generalizing read with
  | nil => simp [escape, parse]
  | cons c cs ih =>
      unfold escape
      split
      case isTrue => simp [parse, ih]
      case isFalse hc =>
          rw [not_or] at hc
          simp [parse, hc.1, hc.2, ih]

/-- The elements of a list are read back. -/
lemma parse_elements (domains : List String) : parse .outside (elements domains) = some domains := by
  induction domains with
  | nil => simp [elements, parse]
  | cons domain domains ih =>
      have hrest : parse .outside ((if domains = [] then [] else [',']) ++ elements domains) =
          some domains := by
        split
        · exact ih
        · simp [parse, ih]
      rw [elements, List.append_assoc, List.cons_append, List.cons_append, parse]
      simp only [if_false, if_true, Char.reduceEq]
      rw [parse_inside, hrest]
      simp

/-- The text of a list of domains, with its reader. -/
def domainsText : DomainsJson where
  toString := fun domains => some (String.ofList ('[' :: elements domains))
  fromStr := fun text =>
    match text.toList with
    | '[' :: cs => parse .outside cs
    | _ => none
  roundTrip := fun domains => ⟨_, rfl, by simp [parse_elements]⟩

end RustProxy.Core.DomainsText
