import RequestBinding.Proofs.Convert.FlatValues
import RequestBinding.Proofs.Request.Operations
import RequestBinding.Proofs.Schema.Extraction
import RequestBinding.Proofs.Source.Pairs
import RequestBinding.Proofs.Text.Cutting

/-!
# Cookies written and read

A cookie is written `name=value` or `name="value"`. Headers hold cookies between semicolons, with
spaces around them and with nothing at all where a semicolon is doubled. Reading the headers gives
the cookies back, in order and with repetitions, and what a field takes from them, as a text or as a
cookie, is the first cookie of its name (`Request.cookies_of_written`). Each piece between
semicolons is read by itself (`Cookie.Piece.ofPair?_text`): what surrounds its first equals sign is
trimmed on either side of it, and quotes come off once.
-/

namespace RequestBinding

/-! ## Octets of plain texts -/

/-- A printable character of ASCII. -/
def Text.IsPrintable (c : Char) : Prop :=
  0x20 ≤ c.toNat ∧ c.toNat ≤ 0x7E

instance : DecidablePred Text.IsPrintable := fun c =>
  inferInstanceAs (Decidable (0x20 ≤ c.toNat ∧ c.toNat ≤ 0x7E))

theorem Text.utf8Bytes_of_printable {cs : List Char} (printable : ∀ c ∈ cs, IsPrintable c) :
    utf8Bytes (String.ofList cs) = cs.map fun c => UInt8.ofNat c.toNat := by
  have each : ∀ c ∈ cs, String.utf8EncodeChar c = [UInt8.ofNat c.toNat] := by
    intro c member
    exact if_pos (Nat.le_succ_of_le (printable c member).2)
  have octets : utf8Bytes (String.ofList cs) = cs.flatMap String.utf8EncodeChar := by
    simp [utf8Bytes, List.utf8Encode]
  rw [octets, List.flatMap_congr each, ← List.map_eq_flatMap]

/-- A header value of printable characters is read as it is written. -/
theorem Request.plainText?_of_printable {cs : List Char}
    (printable : ∀ c ∈ cs, Text.IsPrintable c) :
    plainText? (Text.utf8Bytes (String.ofList cs)) = some cs := by
  have octet : ∀ c ∈ cs, (UInt8.ofNat c.toNat).toNat = c.toNat := by
    intro c member
    have bounded := (printable c member).2
    rw [UInt8.toNat_ofNat']
    exact Nat.mod_eq_of_lt (by omega)
  have plain : (cs.map fun c => UInt8.ofNat c.toNat).all isPlainOctet = true := by
    rw [List.all_map, List.all_eq_true]
    intro c member
    have bounds := printable c member
    have value := octet c member
    simp only [Function.comp_apply, isPlainOctet, UInt8.le_iff_toNat_le, value, Bool.or_eq_true,
      Bool.and_eq_true, decide_eq_true_eq]
    exact Or.inl bounds
  have back : (cs.map fun c => UInt8.ofNat c.toNat).map (fun b => Char.ofNat b.toNat) = cs := by
    rw [List.map_map]
    refine (List.map_congr_left fun c member => ?_).trans (List.map_id cs)
    rw [Function.comp_apply, octet c member, Char.ofNat_toNat, id]
  rw [Text.utf8Bytes_of_printable printable, plainText?, if_pos plain, back]

namespace Cookie

/-! ## Written cookies -/

/-- A cookie that headers can carry: of printable characters, with a name that is neither empty nor
surrounded by white space, and without the characters that separate. -/
structure Portable (c : Cookie) : Prop where
  printable : ∀ ch ∈ c.name.toList ++ c.value.toList, Text.IsPrintable ch
  named : c.name.toList ≠ []
  trimmed : Text.trimChars c.name.toList = c.name.toList
  name : ';' ∉ c.name.toList ∧ '=' ∉ c.name.toList
  value : ';' ∉ c.value.toList

instance (c : Cookie) : Decidable c.Portable :=
  letI : Decidable (∀ ch ∈ c.name.toList ++ c.value.toList, Text.IsPrintable ch) :=
    List.decidableBAll _ _
  decidable_of_iff
    ((∀ ch ∈ c.name.toList ++ c.value.toList, Text.IsPrintable ch) ∧ c.name.toList ≠ [] ∧
      Text.trimChars c.name.toList = c.name.toList ∧
        (';' ∉ c.name.toList ∧ '=' ∉ c.name.toList) ∧ ';' ∉ c.value.toList)
    ⟨fun ⟨printable, named, trimmed, name, value⟩ => ⟨printable, named, trimmed, name, value⟩,
      fun portable =>
        ⟨portable.printable, portable.named, portable.trimmed, portable.name, portable.value⟩⟩

/-- The value needs no quotes: no white space surrounds it, and it does not look quoted itself. -/
def Unambiguous (value : List Char) : Prop :=
  Text.trimChars value = value ∧
    ¬ (2 ≤ value.length ∧ value.head? = some '"' ∧ value.getLast? = some '"')

instance : DecidablePred Unambiguous := fun _ =>
  inferInstanceAs (Decidable (_ ∧ _))

/-- What stands between two semicolons: at most one cookie, with spaces around it. -/
structure Piece where
  cookie : Option Cookie := none
  quoted : Bool := false
  before : Nat := 0
  after : Nat := 0

namespace Piece

/-- The value as it is written. -/
def written (quoted : Bool) (value : List Char) : List Char :=
  if quoted then '"' :: (value ++ ['"']) else value

/-- The cookie as it is written, without the spaces around it. -/
def core (p : Piece) : List Char :=
  p.cookie.elim [] fun c => c.name.toList ++ '=' :: written p.quoted c.value.toList

/-- The text of the piece. -/
def text (p : Piece) : List Char :=
  List.replicate p.before ' ' ++ p.core ++ List.replicate p.after ' '

/-- The cookie can be carried, and has quotes where it needs them. -/
structure Legible (p : Piece) : Prop where
  portable : ∀ c, p.cookie = some c → c.Portable
  unambiguous : ∀ c, p.cookie = some c → p.quoted = false → Unambiguous c.value.toList

instance (p : Piece) : Decidable p.Legible :=
  decidable_of_iff
    (∀ c ∈ p.cookie, c.Portable ∧ (p.quoted = false → Unambiguous c.value.toList))
    ⟨fun each => ⟨fun c held => (each c held).1, fun c held => (each c held).2⟩,
      fun legible c held => ⟨legible.portable c held, legible.unambiguous c held⟩⟩

end Piece

/-- The header of some pieces. -/
def line (pieces : List Piece) : List Char :=
  [';'].intercalate (pieces.map Piece.text)

/-! ## What is read -/

theorem trimChars_quoted (value : List Char) :
    Text.trimChars ('"' :: (value ++ ['"'])) = '"' :: (value ++ ['"']) := by
  have visible : Text.isBlank '"' = false := rfl
  have first := Text.trimBoth_append_cons visible [] (value ++ ['"'])
  rw [Text.dropTrailing_append_cons visible value []] at first
  exact first

theorem unquote_quoted (value : List Char) : unquote ('"' :: (value ++ ['"'])) = value := by
  simp [unquote]

theorem unquote_of_unambiguous {value : List Char} (plain : Unambiguous value) :
    unquote value = value := by
  unfold unquote
  split
  · rename_i rest
    split
    · rename_i closed
      refine absurd ⟨?_, rfl, ?_⟩ plain.2
      · cases rest with
        | nil => cases closed
        | cons c cs => exact Nat.le_add_left 2 cs.length
      · rw [List.getLast?_cons, beq_iff_eq.mp closed]
        rfl
    · rfl
  · rfl

namespace Piece

/-- A value is read as it was before it was written. -/
theorem unquote_trim_written {quoted : Bool} {value : List Char}
    (plain : quoted = false → Unambiguous value) :
    unquote (Text.trimChars (written quoted value)) = value := by
  cases quoted with
  | true => exact (congrArg unquote (trimChars_quoted value)).trans (unquote_quoted value)
  | false =>
    have trimmed : Text.trimChars (written false value) = value := (plain rfl).1
    rw [trimmed, unquote_of_unambiguous (plain rfl)]

theorem isBlank_of_mem_replicate {n : Nat} : ∀ c ∈ List.replicate n ' ', Text.isBlank c = true := by
  intro c member
  rw [List.eq_of_mem_replicate member]
  rfl

/-- A piece is read as the cookie that it holds, or as none. -/
theorem ofPair?_text {p : Piece} (legible : p.Legible) : ofPair? p.text = p.cookie := by
  cases held : p.cookie with
  | none =>
    have blank : Text.trimChars p.text = [] := by
      rw [text, core, held, Text.trimChars, Text.trimBoth_append_right isBlank_of_mem_replicate,
        Text.trimBoth_append_left isBlank_of_mem_replicate]
      rfl
    rw [ofPair?, blank]
    rfl
  | some c =>
    have portable := legible.portable c held
    -- The spaces go to the name on the one side and to the value on the other.
    have shape : p.text = (List.replicate p.before ' ' ++ c.name.toList) ++
        '=' :: (written p.quoted c.value.toList ++ List.replicate p.after ' ') := by
      simp [text, core, held]
    have free : '=' ∉ (List.replicate p.before ' ' ++ c.name.toList).dropWhile Text.isBlank := by
      intro member
      rcases List.mem_append.mp (List.dropWhile_subset _ member) with space | own
      · cases List.eq_of_mem_replicate space
      · exact portable.name.2 own
    have name : Text.trimChars
        ((List.replicate p.before ' ' ++ c.name.toList).dropWhile Text.isBlank) =
          c.name.toList := by
      rw [Text.trimChars, Text.trimBoth_dropWhile,
        Text.trimBoth_append_left isBlank_of_mem_replicate]
      exact portable.trimmed
    have value : unquote (Text.trimChars (Text.dropTrailing Text.isBlank
        (written p.quoted c.value.toList ++ List.replicate p.after ' '))) = c.value.toList := by
      rw [Text.trimChars, Text.trimBoth_dropTrailing,
        Text.trimBoth_append_right isBlank_of_mem_replicate]
      exact unquote_trim_written (legible.unambiguous c held)
    have cut : Text.trimChars p.text = _ := (congrArg Text.trimChars shape).trans
      (Text.trimBoth_append_cons (show Text.isBlank '=' = false from rfl) _ _)
    rw [ofPair?, cut, Text.cutAt_append free]
    simp only [Option.getD_some, name, value, List.isEmpty_iff, portable.named, if_false,
      String.ofList_toList]

/-- What holds of spaces, of the characters that are added in writing and of those of the cookie
holds of all characters of a piece. -/
theorem forall_mem_text {p : Piece} {P : Char → Prop} (space : P ' ') (equals : P '=')
    (quote : P '"')
    (own : ∀ c, p.cookie = some c → ∀ ch ∈ c.name.toList ++ c.value.toList, P ch) :
    ∀ ch ∈ p.text, P ch := by
  have blank : ∀ n, ∀ ch ∈ List.replicate n ' ', P ch := by
    intro n ch member
    rw [List.eq_of_mem_replicate member]
    exact space
  have core : ∀ ch ∈ p.core, P ch := by
    unfold Piece.core
    cases held : p.cookie with
    | none => exact List.forall_mem_nil _
    | some c =>
      rcases List.forall_mem_append.mp (own c held) with ⟨name, value⟩
      have written : ∀ ch ∈ written p.quoted c.value.toList, P ch := by
        unfold Piece.written
        split
        · exact List.forall_mem_cons.mpr ⟨quote,
            List.forall_mem_append.mpr ⟨value, List.forall_mem_singleton.mpr quote⟩⟩
        · exact value
      exact List.forall_mem_append.mpr ⟨name, List.forall_mem_cons.mpr ⟨equals, written⟩⟩
  exact List.forall_mem_append.mpr ⟨List.forall_mem_append.mpr ⟨blank _, core⟩, blank _⟩

theorem semicolon_not_mem_text {p : Piece} (legible : p.Legible) : ';' ∉ p.text := by
  have others : ∀ ch ∈ p.text, ch ≠ ';' := by
    refine forall_mem_text (by decide) (by decide) (by decide) fun c held ch member same => ?_
    have portable := legible.portable c held
    rcases List.mem_append.mp (same ▸ member) with name | value
    · exact portable.name.1 name
    · exact portable.value value
  exact fun member => others ';' member rfl

theorem printable_text {p : Piece} (legible : p.Legible) : ∀ ch ∈ p.text, Text.IsPrintable ch :=
  forall_mem_text (by decide) (by decide) (by decide) fun c held =>
    (legible.portable c held).printable

end Piece

/-! ## Headers -/

variable {pieces : List Piece} (legible : ∀ p ∈ pieces, p.Legible)

include legible

theorem printable_line : ∀ ch ∈ line pieces, Text.IsPrintable ch := by
  unfold line
  induction pieces with
  | nil => exact List.forall_mem_nil _
  | cons p rest ih =>
    rcases List.forall_mem_cons.mp legible with ⟨first, others⟩
    cases rest with
    | nil => simpa using p.printable_text first
    | cons q rest =>
      rw [List.map_cons, List.map_cons, List.intercalate_cons_cons]
      have semicolon : Text.IsPrintable ';' := by decide
      have separated := List.forall_mem_append.mpr
        ⟨p.printable_text first, List.forall_mem_singleton.mpr semicolon⟩
      exact List.forall_mem_append.mpr ⟨separated, ih others⟩

/-- A header is read as the cookies of its pieces. -/
theorem ofLine_line : ofLine (line pieces) = pieces.filterMap (·.cookie) := by
  cases pieces with
  | nil => rfl
  | cons p rest =>
    have free : ∀ text ∈ (p :: rest).map Piece.text, ';' ∉ text := by
      rw [List.forall_mem_map]
      exact fun q member => q.semicolon_not_mem_text (legible q member)
    rw [ofLine, line, List.splitOn_intercalate ';' free (List.cons_ne_nil _ _), List.filterMap_map]
    exact List.filterMap_congr fun q member => q.ofPair?_text (legible q member)

end Cookie

/-! ## Fields -/

/-- The texts under a name are the values of the cookies of this name. -/
theorem FormValues.head?_valuesUnder_cookies (cookies : List Cookie) (name : String) :
    (valuesUnder (cookies.map fun c => (c.name, c.value)) name).head? =
      (cookies.find? (·.name == name)).map (·.value) := by
  rw [valuesUnder, List.filter_map, List.map_map, List.head?_map, List.head?_filter]
  rfl

namespace ParamsApi

variable (recs : Records) (api : ParamsApi) {param : ParamDescriptor} (pathParams : PathParams)
  (x : Exchange)

/-- A field among the cookies takes the first cookie of its name: as a text the value of it, and as
a cookie all of it. The text is found by the key of a form and the cookie by searching the list. -/
theorem extract_cookie (position : param.position = .cookie) :
    let first := x.request.seenCookies.find? (·.name == param.name)
    (api.extract recs param (.scalar .text) pathParams x).1 =
        .ok (first.map fun c => .text c.value) ∧
      (api.extract recs param .cookie pathParams x).1 = .ok (first.map .cookie) := by
  intro first
  have notBody : param.position ≠ .body := by
    rw [position]
    nofun
  have source : (api.source param pathParams x).1 = .ok (some
      { KeySource.ofPairs (x.request.seenCookies.map fun c => (c.name, c.value)) api.maxIndex with
        cookies := x.request.seenCookies }) := by
    rw [← (Exchange.cookies_eq x).1, ParamsApi.source, position]
    rfl
  have value : { KeySource.ofPairs (x.request.seenCookies.map fun c : Cookie => (c.name, c.value))
      api.maxIndex with cookies := x.request.seenCookies }.firstValue? param.name.toList =
        first.map (·.value) :=
    (congrArg List.head? (KeySource.values_ofPairs _ api.maxIndex _)).trans
      (FormValues.head?_valuesUnder_cookies _ _)
  have names : (fun c : Cookie => c.name.toList == param.name.toList) = (·.name == param.name) := by
    funext c
    rw [Bool.eq_iff_iff, beq_iff_eq, beq_iff_eq, String.toList_inj]
  rw [extract_of_position_ne notBody, extract_of_position_ne notBody, source]
  constructor
  · rw [convert, WireType.find_scalar, value]
    cases first <;> rfl
  · rw [convert, WireType.find, WireType.findWith, KeySource.cookie?, names]
    rfl

end ParamsApi

/-- Reading undoes writing. The cookies of headers that have been written, with or without quotes
around the values, with any spaces and any empty pieces, over any number of headers, are the cookies
that were written, in order and with repetitions. And whatever has been read of the request before,
a field among the cookies takes the first of them that has its name, be it a text or a cookie. -/
theorem Request.cookies_of_written {r : Request} {lines : List (List Cookie.Piece)}
    {cookies : List Cookie} (legible : ∀ pieces ∈ lines, ∀ p ∈ pieces, p.Legible)
    (holds : lines.flatten.filterMap (·.cookie) = cookies)
    (sent : r.rawHeader "cookie" =
      lines.map fun pieces => Text.utf8Bytes (String.ofList (Cookie.line pieces))) :
    r.cookies = cookies ∧
      ∀ (before : List Operation) (events : List Event), r.readCookies = none →
        ∀ (recs : Records) (api : ParamsApi) (param : ParamDescriptor) (pathParams : PathParams),
          param.position = .cookie →
            let y := (Operation.run before { request := r, events }).2
            let first := cookies.find? (·.name == param.name)
            (api.extract recs param (.scalar .text) pathParams y).1 =
                .ok (first.map fun c => .text c.value) ∧
              (api.extract recs param .cookie pathParams y).1 = .ok (first.map .cookie) := by
  have read : r.cookies = cookies := by
    have plain : (r.rawHeader "cookie").filterMap plainText? = lines.map Cookie.line := by
      rw [sent, List.filterMap_map, ← List.filterMap_eq_map]
      exact List.filterMap_congr fun pieces member =>
        plainText?_of_printable (Cookie.printable_line (legible pieces member))
    rw [Request.cookies, plain, List.flatMap_map, ← holds, List.filterMap_flatten,
      ← List.flatMap_def]
    exact List.flatMap_congr fun pieces member => Cookie.ofLine_line (legible pieces member)
  refine ⟨read, fun before events unread recs api param pathParams position => ?_⟩
  have seen : (Operation.run before { request := r, events }).2.request.seenCookies = cookies := by
    rw [((Operation.run_reads before).follows _).cookies, seenCookies, unread]
    exact read
  have taken := ParamsApi.extract_cookie recs api pathParams
    (Operation.run before { request := r, events }).2 position
  rw [seen] at taken
  exact taken

/-- Two cookies of one name in two headers, an equals sign and quotes in a value, spaces, and
nothing between two semicolons and at the end of a header. -/
theorem Request.cookies_of_written_twice :
    let r : Request :=
      { headers :=
          [("Cookie", Text.utf8Bytes "k=a=b;;  q=\" \"x \" ; "), ("host", []),
            ("cookie", Text.utf8Bytes "k=c")] }
    let cookies : List Cookie := [⟨"k", "a=b"⟩, ⟨"q", " \"x "⟩, ⟨"k", "c"⟩]
    let param : ParamDescriptor :=
      { api := "", name := "k", field := "k", position := .cookie, required := true, isFile := false
        path := [], tags := {}, customError := none, validator := {}, kind := .cookie }
    let api : ParamsApi :=
      { ident := "", name := "", params := [param], decoder := fun _ => none, maxMemory := 0
        maxIndex := 0 }
    r.cookies = cookies ∧
      (api.extract {} param (.scalar .text) [] { request := r }).1 = .ok (some (.text "a=b")) ∧
      (api.extract {} param .cookie [] { request := r }).1 = .ok (some (.cookie ⟨"k", "a=b"⟩)) := by
  intro r cookies param api
  let lines : List (List Cookie.Piece) :=
    [[{ cookie := some ⟨"k", "a=b"⟩ }, {},
        { cookie := some ⟨"q", " \"x "⟩, quoted := true, before := 2, after := 1 },
        { before := 1 }],
      [{ cookie := some ⟨"k", "c"⟩ }]]
  have legible : ∀ pieces ∈ lines, ∀ p ∈ pieces, p.Legible := by decide +kernel
  have sent : r.rawHeader "cookie" =
      lines.map fun pieces => Text.utf8Bytes (String.ofList (Cookie.line pieces)) := by
    decide +kernel
  rcases cookies_of_written legible rfl sent with ⟨read, fields⟩
  rcases fields [] [] rfl {} api param [] rfl with ⟨text, cookie⟩
  exact ⟨read, text, cookie⟩

end RequestBinding
