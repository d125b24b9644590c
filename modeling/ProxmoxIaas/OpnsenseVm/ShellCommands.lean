import ProxmoxIaas.Foundation.Shell

/-!
# Command Lines for an OPNsense VM

A request to the API of OPNsense is a command line with `curl`, and a script is written to the VM
by a command line with `printf`; both run as `/bin/sh -c command` inside the VM. What they contain
comes from tenants and from OPNsense.

## Main results

- `read?_requestCommand`: the shell reads the arguments that are meant, for all texts.
- `run?_writeScriptCommand`: the file has the content that is meant, for all texts.
-/

namespace ProxmoxIaas.OpnsenseVm

/-- The method of a request, which callers give as a literal. -/
structure Method where
  /-- The name as the caller writes it. -/
  name : List Char
  /-- The name is a word. -/
  name_ne_nil : name ≠ []
  /-- The name has letters only. -/
  letters : ∀ c ∈ name, c.isAlpha = true

/-- The method with capital letters, `method.upper()`. -/
def Method.upper (method : Method) : List Char := method.name.map Char.toUpper

/-- The arguments of `exec_opnsense_api` that its command line depends on. -/
structure ApiRequest where
  /-- The method. -/
  method : Method
  /-- The path below `/api/`. -/
  path : List Char
  /-- The API key. -/
  apiKey : List Char
  /-- The API secret. -/
  apiSecret : List Char
  /-- The text of the JSON body; `none` for no body and for an empty object. -/
  json : Option (List Char)

/-- The path without the slashes that it starts with. -/
def ApiRequest.urlPath (request : ApiRequest) : List Char :=
  request.path.dropWhile (· == '/')

/-- The command line of a request. -/
def requestCommand (request : ApiRequest) : List Char :=
  let safeKey := Shell.quote request.apiKey
  let safeSecret := Shell.quote request.apiSecret
  let urlPath := Shell.quote request.urlPath
  let start := "curl -sk -u ".toList ++ safeKey ++ ":".toList ++ safeSecret
  let url := " https://localhost/api/".toList ++ urlPath
  if request.method.upper = "GET".toList then start ++ url
  else match request.json with
    | some json =>
      start ++ " -X ".toList ++ request.method.upper ++
        " -H 'Content-Type: application/json' -d ".toList ++ Shell.quote json ++ url
    | none => start ++ " -X ".toList ++ request.method.upper ++ url

/-- The arguments that are meant. The body of a `GET` is not sent. -/
def intendedArguments (request : ApiRequest) : List (List Char) :=
  let start := ["curl".toList, "-sk".toList, "-u".toList,
    request.apiKey ++ ':' :: request.apiSecret]
  let url := "https://localhost/api/".toList ++ request.urlPath
  if request.method.upper = "GET".toList then start ++ [url]
  else match request.json with
    | some json =>
      start ++ ["-X".toList, request.method.upper, "-H".toList,
        "Content-Type: application/json".toList, "-d".toList, json, url]
    | none => start ++ ["-X".toList, request.method.upper, url]

/-- A digit of `uuid4().hex`. -/
def hexDigit (digit : Fin 16) : Char := Nat.digitChar digit

/-- The path of a script. -/
def scriptPath (id : List (Fin 16)) : List Char :=
  "/tmp/opncfg_".toList ++ id.map hexDigit ++ ".php".toList

/-- The command line that writes a file, with the content in single quotes. -/
def writeScriptCommand (remotePath content : List Char) : List Char :=
  let safe := Shell.escape "'\\''".toList content
  "printf '%s' '".toList ++ safe ++ "' > ".toList ++ remotePath

section Request

/-- The texts of a request have no null character. -/
structure ApiRequest.Sendable (request : ApiRequest) : Prop where
  /-- The path. -/
  path : Shell.NoNull request.path
  /-- The API key. -/
  apiKey : Shell.NoNull request.apiKey
  /-- The API secret. -/
  apiSecret : Shell.NoNull request.apiSecret
  /-- The JSON body. -/
  json : ∀ json ∈ request.json, Shell.NoNull json

/-- Capital letters are plain. -/
theorem isPlain_toUpper {c : Char} (h : c.isAlpha = true) : Shell.isPlain c.toUpper = true := by
  have hupper : c.toUpper.isAlphanum = true := by
    unfold Char.toUpper
    split
    next hlow =>
      delta Char.isAlphanum Char.isAlpha Char.isUpper
      simp only [UInt32.le_iff_toNat_le, ge_iff_le, UInt32.toNat_add, UInt32.reduceSub,
        Char.reduceVal, UInt32.reduceToNat] at hlow ⊢
      simp only [Bool.or_eq_true, decide_eq_true_eq]
      omega
    next => rw [Char.isAlphanum, h, Bool.true_or]
  rw [Shell.isPlain, hupper, Bool.true_or]

/-- The method stands for itself. -/
theorem Method.reads_upper (method : Method) : Shell.Reads method.upper method.upper := by
  refine Shell.reads_of_isPlain (fun h => method.name_ne_nil (List.map_eq_nil_iff.mp h)) ?_
  intro c hc
  obtain ⟨d, hd, rfl⟩ := List.mem_map.mp hc
  exact isPlain_toUpper (method.letters d hd)

/-- The pieces of the command line that are between blanks. -/
def requestPieces (request : ApiRequest) : List (List Char) :=
  let start := ["curl".toList, "-sk".toList, "-u".toList,
    Shell.quote request.apiKey ++ (":".toList ++ Shell.quote request.apiSecret)]
  let url := "https://localhost/api/".toList ++ Shell.quote request.urlPath
  if request.method.upper = "GET".toList then start ++ [url]
  else match request.json with
    | some json =>
      start ++ ["-X".toList, request.method.upper, "-H".toList,
        "'Content-Type: application/json'".toList, "-d".toList, Shell.quote json, url]
    | none => start ++ ["-X".toList, request.method.upper, url]

/-- The command line is its pieces with blanks between them. -/
theorem requestCommand_eq_join (request : ApiRequest) :
    requestCommand request = Text.join ' ' (requestPieces request) := by
  unfold requestCommand requestPieces
  split
  next => simp [Text.join]
  next =>
    split
    next => simp [Text.join]
    next => simp [Text.join]

/-- Every piece of the command line stands for the argument that is meant. -/
theorem forall₂_requestPieces {request : ApiRequest} (h : request.Sendable) :
    List.Forall₂ Shell.Reads (requestPieces request) (intendedArguments request) := by
  have hpath : Shell.NoNull request.urlPath := fun hmem =>
    h.path ((List.dropWhile_sublist _).mem hmem)
  have hcredentials := (Shell.reads_quote h.apiKey).append
    ((Shell.reads_literal ":" (by decide)).append (Shell.reads_quote h.apiSecret))
  have hurl := (Shell.reads_literal "https://localhost/api/" (by decide)).append
    (Shell.reads_quote hpath)
  have hx := Shell.reads_literal "-X" (by decide)
  -- every command line starts with the options and the credentials
  have hstart {pieces texts} (hrest : List.Forall₂ Shell.Reads pieces texts) :=
    List.Forall₂.cons (Shell.reads_literal "curl" (by decide))
      (.cons (Shell.reads_literal "-sk" (by decide))
        (.cons (Shell.reads_literal "-u" (by decide)) (.cons hcredentials hrest)))
  unfold requestPieces intendedArguments
  split
  next => exact hstart (.cons hurl .nil)
  next =>
    split
    next json hjson =>
      have htype : Shell.Reads "'Content-Type: application/json'".toList
          "Content-Type: application/json".toList :=
        Shell.reads_quote (by decide : Shell.NoNull "Content-Type: application/json".toList)
      have hbody := Shell.reads_quote (h.json json hjson)
      exact hstart (.cons hx (.cons request.method.reads_upper
        (.cons (Shell.reads_literal "-H" (by decide)) (.cons htype
          (.cons (Shell.reads_literal "-d" (by decide)) (.cons hbody (.cons hurl .nil)))))))
    next => exact hstart (.cons hx (.cons request.method.reads_upper (.cons hurl .nil)))

/-- The shell reads the command line of a request as the arguments that are meant. -/
theorem read?_requestCommand {request : ApiRequest} (h : request.Sendable) :
    Shell.read? (requestCommand request) = some ⟨intendedArguments request, none⟩ := by
  have hreads := forall₂_requestPieces h
  have hcurl : (intendedArguments request).head? = some "curl".toList := by
    unfold intendedArguments
    split
    next => rfl
    next => split <;> rfl
  rw [requestCommand_eq_join]
  refine Shell.read?_join hreads (fun hnil => ?_) ?_
  · rw [hnil, List.forall₂_nil_left_iff] at hreads
    rw [hreads] at hcurl
    cases hcurl
  · rw [hcurl]
    decide

end Request

section Script

/-- The path of a script stands for itself. -/
theorem reads_scriptPath (id : List (Fin 16)) : Shell.Reads (scriptPath id) (scriptPath id) := by
  have hdigit : ∀ digit, Shell.isPlain (hexDigit digit) = true := by decide
  have hstart := Shell.reads_literal "/tmp/opncfg_" (by decide)
  have hend := Shell.reads_literal ".php" (by decide)
  cases id with
  | nil => exact (hstart.append hend)
  | cons digit id =>
    have hid : Shell.Reads ((digit :: id).map hexDigit) ((digit :: id).map hexDigit) := by
      refine Shell.reads_of_isPlain (List.cons_ne_nil _ _) fun c hc => ?_
      obtain ⟨d, _, rfl⟩ := List.mem_map.mp hc
      exact hdigit d
    exact (hstart.append hid).append hend

/-- The command line that writes a file has three words and a redirection. -/
theorem scan_writeScriptCommand {remotePath : List Char} (content : List Char)
    (h : Shell.Denotes remotePath remotePath) :
    Shell.scan .unquoted none (writeScriptCommand remotePath content) =
      some [.word "printf".toList, .word "%s".toList, .word content, .great,
        .word remotePath] := by
  have hprintf := (Shell.reads_literal "printf" (by decide)).denotes
  have hformat : Shell.Denotes "'%s'".toList "%s".toList := by
    have hquoted : Shell.Denotes
        ('\'' :: (Shell.escape "'\\''".toList ['%', 's'] ++ ['\''])) ['%', 's'] :=
      Shell.denotes_quoted Shell.scan_backslash
    exact hquoted
  have hcontent : Shell.Denotes
      ('\'' :: (Shell.escape "'\\''".toList content ++ ['\''])) content :=
    Shell.denotes_quoted Shell.scan_backslash
  have hline (safe : List Char) : "printf '%s' '".toList ++ safe ++ "' > ".toList ++ remotePath =
      "printf".toList ++ ' ' :: ("'%s'".toList ++ ' ' ::
        ('\'' :: (safe ++ ['\'']) ++ ' ' :: '>' :: ' ' :: remotePath)) := by
    simp
  -- the equation lemma would evaluate the literals
  delta writeScriptCommand
  rw [hline, hprintf.scan_blank, hformat.scan_blank, hcontent.scan_blank, Shell.scan_great,
    h.scan_end]
  rfl

/-- The command that the shell reads writes the content to the file and changes no other file. -/
theorem run?_writeScriptCommand (files : Shell.Files) (id : List (Fin 16)) {content : List Char}
    (h : Shell.NoNull content) :
    (Shell.read? (writeScriptCommand (scriptPath id) content)).bind (Shell.run? files) =
      some (Function.update files (scriptPath id) (some content)) := by
  have hpath := reads_scriptPath id
  have hnull : Shell.NoNull (writeScriptCommand (scriptPath id) content) := by
    have hstart : Shell.NoNull "printf '%s' '".toList := by decide
    have hescape : Shell.NoNull "'\\''".toList := by decide
    have hredirect : Shell.NoNull "' > ".toList := by decide
    exact ((hstart.append (hescape.escape h)).append hredirect).append hpath.noNull
  have hread : Shell.read? (writeScriptCommand (scriptPath id) content) =
      some ⟨["printf".toList, "%s".toList, content], some (scriptPath id)⟩ :=
    Shell.read?_eq_some hnull (scan_writeScriptCommand content hpath.denotes) rfl
      (by rw [List.head?_cons]; decide)
  rw [hread, Option.bind_some, Shell.run?, if_pos rfl, Shell.printf?, if_pos (by decide),
    Option.map_some, List.flatten_singleton]

end Script

/-- Quoting is faithful: whatever the texts are, the shell reads a request as the arguments that are
meant, and a script that is written has exactly its content. -/
theorem quoting_faithful (request : ApiRequest) (hrequest : request.Sendable)
    (files : Shell.Files) (id : List (Fin 16)) (content : List Char)
    (hcontent : Shell.NoNull content) :
    Shell.read? (requestCommand request) = some ⟨intendedArguments request, none⟩ ∧
      (Shell.read? (writeScriptCommand (scriptPath id) content)).bind (Shell.run? files) =
        some (Function.update files (scriptPath id) (some content)) :=
  ⟨read?_requestCommand hrequest, run?_writeScriptCommand files id hcontent⟩

/-- Quotes, an expansion and a line break in every text stay what they are. -/
theorem quoting_faithful_special :
    Shell.read? (requestCommand ⟨⟨['p', 'o', 's', 't'], by decide, List.all_eq_true.mp (by decide)⟩,
        "/kea/dhcpv4/set".toList, "k'\"".toList, "$(id)".toList, some "\x7b'a': \"\\n\"\x7d".toList⟩) =
      some ⟨["curl", "-sk", "-u", "k'\":$(id)", "-X", "POST", "-H",
        "Content-Type: application/json", "-d", "\x7b'a': \"\\n\"\x7d",
        "https://localhost/api/kea/dhcpv4/set"].map String.toList, none⟩ ∧
    (Shell.read? (writeScriptCommand (scriptPath [0, 10]) "echo 'a';\n$x".toList)).bind
        (Shell.run? fun _ => none) =
      some (Function.update (fun _ => none) (scriptPath [0, 10]) (some "echo 'a';\n$x".toList)) :=
  quoting_faithful _ ⟨by decide, by decide, by decide, fun _ hmem => by cases hmem; decide⟩
    _ _ _ (by decide)

end ProxmoxIaas.OpnsenseVm
