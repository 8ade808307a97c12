import QuizService.Proofs.Chat.Prompt
import QuizService.Proofs.FieldType.Recovery
import QuizService.Proofs.Json.Single
import QuizService.Proofs.Json.Value
import QuizService.Proofs.Schema.Grammar

namespace QuizService

open Json (Tree)

namespace Sampling

theorem value?_json (x : Option (Decimal.Binary Decimal.single)) (room : ℕ) :
    ∃ v, (json x).tree.value? room = some v := by
  cases x with
  | none => exact ⟨.null, by rw [json, Json.tree, Json.Tree.value?]⟩
  | some b =>
    obtain ⟨n, hn⟩ := Json.Numeral.reread?_single b
    exact ⟨.number n, by rw [json, Json.tree, Json.Tree.value?, hn, Option.map_some]⟩

theorem depth_json (x : Option (Decimal.Binary Decimal.single)) : (json x).depth = 0 := by
  cases x <;> rfl

end Sampling

namespace Prompts

variable {p : Prompts} {schema : Json}

theorem exact_message (role content : String) : (message role content).Exact := by
  simp [message]

theorem distinct_message (role content : String) : (message role content).Distinct := by
  simp [message, Entries.names]

theorem exact_tool (h : schema.Exact) : (p.tool schema).Exact := by
  simp [tool, Json.strings, h]

theorem distinct_tool (h : schema.Distinct) : (p.tool schema).Distinct := by
  simp [tool, Json.strings, Entries.names, h]

theorem exact_toolChoice (p : Prompts) : p.toolChoice.Exact := by
  simp [toolChoice]

theorem distinct_toolChoice (p : Prompts) : p.toolChoice.Distinct := by
  simp [toolChoice, Entries.names]

theorem depth_body (p : Prompts) (s : Sampling) (model : String) (schema : Json)
    (context : PromptContext) (nonce : ℕ) :
    (p.body s model schema context nonce).depth = schema.depth + 6 := by
  simp [body, message, tool, toolChoice, Json.strings, Json.depth, Json.itemsDepth,
    Json.membersDepth, Sampling.depth_json]

theorem value?_body (s : Sampling) (model : String) (hexact : schema.Exact)
    (hdistinct : schema.Distinct) {context : PromptContext} {nonce : ℕ}
    (hdepth : (p.body s model schema context nonce).depth ≤ 127) :
    ∃ temperature topP presencePenalty : Json,
      (p.body s model schema context nonce).tree.value? 127 = some (.object
        [("model", .string model),
          ("messages", .array
            [message "system" p.system, message "user" (p.userMessage context nonce)]),
          ("tools", .array [p.tool schema]), ("tool_choice", p.toolChoice),
          ("temperature", temperature), ("top_p", topP),
          ("presence_penalty", presencePenalty)]) := by
  simp only [body, Json.depth, Json.membersDepth] at hdepth
  have hmessages : (Json.array [message "system" p.system,
      message "user" (p.userMessage context nonce)]).tree.value? 126 = some _ :=
    Json.value?_tree (by simp [exact_message])
      (by simp [distinct_message]) (by rw [Json.depth]; omega)
  have htools : (Json.array [p.tool schema]).tree.value? 126 = some _ :=
    Json.value?_tree (by simp [exact_tool hexact])
      (by simp [distinct_tool hdistinct]) (by rw [Json.depth]; omega)
  have hchoice : p.toolChoice.tree.value? 126 = some _ :=
    Json.value?_tree (exact_toolChoice p) (distinct_toolChoice p) (by omega)
  obtain ⟨temperature, htemperature⟩ := Sampling.value?_json s.temperature 126
  obtain ⟨topP, htopP⟩ := Sampling.value?_json s.topP 126
  obtain ⟨presencePenalty, hpenalty⟩ := Sampling.value?_json s.presencePenalty 126
  refine ⟨temperature, topP, presencePenalty, ?_⟩
  have hmodel : (Json.string model).tree.value? 126 = some (.string model) := by
    rw [Json.tree, Tree.value?, Option.map_some]
  have hnil : Tree.membersOf? 126 (Json.memberTrees []) = some [] := by
    rw [Json.memberTrees, Tree.membersOf?]
  have hmembers := Json.membersOf?_cons (k := "model") hmodel <|
    Json.membersOf?_cons (k := "messages") hmessages <|
    Json.membersOf?_cons (k := "tools") htools <|
    Json.membersOf?_cons (k := "tool_choice") hchoice <|
    Json.membersOf?_cons (k := "temperature") htemperature <|
    Json.membersOf?_cons (k := "top_p") htopP <|
    Json.membersOf?_cons (k := "presence_penalty") hpenalty hnil
  have hnames : ["model", "messages", "tools", "tool_choice", "temperature", "top_p",
    "presence_penalty"].Nodup := by decide
  rw [body, Json.tree, Tree.value?, hmembers, Option.map_some, Json.ofMembers,
    Entries.putAll_nil (by exact hnames)]

theorem body_reads_back (p : Prompts) (s : Sampling) (model : String)
    {r : RecordType} (hschema : r.schema = .ok schema) (context : PromptContext) (nonce : ℕ)
    (hdepth : (p.body s model schema context nonce).depth ≤ Json.depthLimit) :
    ∃ temperature topP presencePenalty : Json,
      Json.ofText? (p.body s model schema context nonce).text = some (.object
        [("model", .string model),
          ("messages", .array
            [.object [("role", .string "system"), ("content", .string p.system)],
              .object
                [("role", .string "user"),
                  ("content", .string (p.userMessage context nonce))]]),
          ("tools", .array
            [.object
              [("type", .string "function"),
                ("function", .object
                  [("name", .string p.functionName),
                    ("description", .string p.functionDescription),
                    ("parameters", .object
                      [("type", .string "object"),
                        ("properties", .object [("question", schema)]),
                        ("required", .array [.string "question"])])])]]),
          ("tool_choice", .object
            [("type", .string "function"),
              ("function", .object [("name", .string p.functionName)])]),
          ("temperature", temperature), ("top_p", topP),
          ("presence_penalty", presencePenalty)]) := by
  have hlowered : r.type.schema = .ok schema := RecordType.schema_eq_ok.mp hschema
  obtain ⟨-, rfl⟩ := FieldType.schema_eq_ok.mp hlowered
  have hdistinct := (Schema.emitted_of_schema hlowered).distinct
  rw [Json.ofText?, Json.ofText?_text]
  exact value?_body s model r.type.exact_outline hdistinct hdepth

theorem body_reads_back_quoted :
    ∃ temperature topP presencePenalty : Json,
      Json.ofText?
        ((⟨"Say \"\x7d\".\n", "\x7b\x7binstructions\x7d", "ask\"", "\\"⟩ : Prompts).body
          .default "m\t"
          (.object
            [("type", .string "object"),
              ("properties", .object
                [("z\"", .object
                    [("type", .string "array"), ("items", .object [("type", .string "string")])]),
                  ("a", .object [("type", .string "integer")])])])
          ⟨"c", "d", "t", "\"\x7d],\x7bnonce\x7d"⟩ 7).text = some (.object
        [("model", .string "m\t"),
          ("messages", .array
            [.object [("role", .string "system"), ("content", .string "Say \"\x7d\".\n")],
              .object
                [("role", .string "user"), ("content", .string "\x7b\"\x7d],\x7bnonce\x7d")]]),
          ("tools", .array
            [.object
              [("type", .string "function"),
                ("function", .object
                  [("name", .string "ask\""), ("description", .string "\\"),
                    ("parameters", .object
                      [("type", .string "object"),
                        ("properties", .object
                          [("question", .object
                            [("type", .string "object"),
                              ("properties", .object
                                [("z\"", .object
                                    [("type", .string "array"),
                                      ("items", .object [("type", .string "string")])]),
                                  ("a", .object [("type", .string "integer")])])])]),
                        ("required", .array [.string "question"])])])]]),
          ("tool_choice", .object
            [("type", .string "function"), ("function", .object [("name", .string "ask\"")])]),
          ("temperature", temperature), ("top_p", topP),
          ("presence_penalty", presencePenalty)]) := by
  have hmessage : (⟨"Say \"\x7d\".\n", "\x7b\x7binstructions\x7d", "ask\"", "\\"⟩ :
      Prompts).userMessage ⟨"c", "d", "t", "\"\x7d],\x7bnonce\x7d"⟩ 7 =
        "\x7b\"\x7d],\x7bnonce\x7d" := by
    decide +kernel
  rw [← hmessage]
  exact body_reads_back _ .default "m\t"
    (r := ⟨"Item", [("z\"", .list .string), ("a", .optionalOf .integer)]⟩) rfl
    ⟨"c", "d", "t", "\"\x7d],\x7bnonce\x7d"⟩ 7 (by rw [depth_body]; decide)

end Prompts

end QuizService
