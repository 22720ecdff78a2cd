import EnumTables.Proofs.Hosting.Fetch
import EnumTables.Proofs.Text.Base64
import EnumTables.Proofs.Text.Replacement

/-!
# The content of a file

The service answers with the bytes of a file in base64, broken into lines.  Main statements: a file
in UTF-8 is fetched as the text that it holds, character by character; of a file in any encoding,
the ASCII is fetched as it is.
-/

namespace EnumTables.Hosting

open Text

variable {w : World} {past : Trace} {client : Client} {commit : Commit} {path : String}

/-- The description of a file stands for the bytes whose encoding it holds, whatever means nothing
in it. -/
theorem contentOf_of_bytes {file : Json} {bytes : List UInt8} {content : String}
    (encoded : Base64.Interspersed (Base64.encode bytes) content.toList)
    (member : file.member "content" = .ok (.str content)) :
    contentOf file = .ok (Utf8.decodeReplacing bytes) := by
  rw [contentOf_of_member member, decodeContent_of_ok (Base64.decode_of_interspersed encoded)]

theorem contentOf_of_interspersed {file : Json} {text content : String}
    (encoded : Base64.Interspersed (Base64.encode (Utf8.encode text)) content.toList)
    (member : file.member "content" = .ok (.str content)) : contentOf file = .ok text := by
  rw [contentOf_of_bytes encoded member, Utf8.decodeReplacing_encode]

/-- Whether an answer describes a file with this content. -/
def holdsContent (content : String) : Except Fault Json → Bool
  | .ok file => file.member "content" |>.toOption.any (·.isText content)
  | .error _ => false

theorem holdsContent_iff {content : String} {answer : Except Fault Json} :
    holdsContent content answer = true ↔
      ∃ file, answer = .ok file ∧ file.member "content" = .ok (.str content) := by
  cases answer with
  | error e => simp [holdsContent]
  | ok file =>
    cases member : file.member "content" with
    | error e => simp [holdsContent, member, Except.toOption]
    | ok value => simp [holdsContent, member, Except.toOption, Json.isText_iff]

/-- To fetch a file that the service describes by an encoding of a text, with noise put in at any
places, is one request, and gives the text. -/
theorem fetchContent_encoded {file : Json} {text content : String}
    (encoded : Base64.Interspersed (Base64.encode (Utf8.encode text)) content.toList)
    (answered : answer w (contentRequest client commit path) = .ok file)
    (member : file.member "content" = .ok (.str content)) :
    (fetchContent client commit path).run w past =
      ⟨[.request (contentRequest client commit path)], .ok text⟩ := by
  rw [run_fetchContent, textAt, answered]
  exact congrArg _ (contentOf_of_interspersed encoded member)

/-- A file with a byte-order mark, a letter of two bytes and both characters of a line's end is
fetched as it is from an answer with line feeds between the padding. -/
theorem fetchContent_encoded_mark :
    let text := "\uFEFFé\r\n"
    let content := "77u/\nw6kN\nCg=\n=\n"
    let body := "\x7b\"content\": \"77u/\\nw6kN\\nCg=\\n=\\n\"\x7d"
    let w : World := {
      environment := []
      files := fun _ ↦ none
      respond := fun url ↦ .ok ⟨url, 200, "OK", body⟩
      failure := fun _ _ ↦ none }
    let client := Client.new "https://api.github.com" none 30
    let commit : Commit := ⟨"acme", "backend", "1a2b3c"⟩
    Base64.Interspersed (Base64.encode (Utf8.encode text)) content.toList ∧
      (∃ file, answer w (contentRequest client commit "A.java") = .ok file ∧
        file.member "content" = .ok (.str content)) ∧
      ((fetchContent client commit "A.java").run w []).result = .ok text := by
  intro text content body w client commit
  have noiseless : content.toList.filter (fun c ↦ ¬ Base64.IsNoise c) =
      Base64.encode (Utf8.encode text) := by decide +kernel
  have encoded : Base64.Interspersed (Base64.encode (Utf8.encode text)) content.toList :=
    noiseless ▸ Base64.interspersed_filter content.toList
  have holds : holdsContent content (answer w (contentRequest client commit "A.java")) = true := by
    decide +kernel
  obtain ⟨file, answered, member⟩ := holdsContent_iff.mp holds
  have fetched : (fetchContent client commit "A.java").run w [] = _ :=
    fetchContent_encoded encoded answered member
  exact ⟨encoded, ⟨file, answered, member⟩, congrArg Run.result fetched⟩

/-- To fetch a file of any bytes, well-formed or not, gives a text, whose ASCII is that of the
bytes. -/
theorem fetchContent_ascii {file : Json} {bytes : List UInt8} {content : String}
    (encoded : Base64.Interspersed (Base64.encode bytes) content.toList)
    (answered : answer w (contentRequest client commit path) = .ok file)
    (member : file.member "content" = .ok (.str content)) :
    ∃ text, (fetchContent client commit path).run w past =
        ⟨[.request (contentRequest client commit path)], .ok text⟩ ∧
      ascii (text.toList.map Char.toNat) = ascii (bytes.map UInt8.toNat) := by
  refine ⟨Utf8.decodeReplacing bytes, ?_, Utf8.ascii_decodeReplacing bytes⟩
  rw [run_fetchContent, textAt, answered]
  exact congrArg _ (contentOf_of_bytes encoded member)

/-- A letter in Latin-1, a surrogate that is cut short and the beginning of a character of four
bytes leave the quotes, the parentheses and the semicolon around them standing. -/
theorem fetchContent_ascii_latin :
    let bytes : List UInt8 := [0x28, 0x22, 0xE9, 0x22, 0x29, 0xED, 0xA0, 0x3B, 0xF0, 0x90]
    let content := "KCLpIint\noDvwkA==\n"
    let body := "\x7b\"content\": \"KCLpIint\\noDvwkA==\\n\"\x7d"
    let w : World := {
      environment := []
      files := fun _ ↦ none
      respond := fun url ↦ .ok ⟨url, 200, "OK", body⟩
      failure := fun _ _ ↦ none }
    let client := Client.new "https://api.github.com" none 30
    let commit : Commit := ⟨"acme", "backend", "1a2b3c"⟩
    Base64.Interspersed (Base64.encode bytes) content.toList ∧
      (∃ file, answer w (contentRequest client commit "A.java") = .ok file ∧
        file.member "content" = .ok (.str content)) ∧
      ∃ text, ((fetchContent client commit "A.java").run w []).result = .ok text ∧
        ascii (text.toList.map Char.toNat) = "(\"\");".toList.map Char.toNat := by
  intro bytes content body w client commit
  have noiseless : content.toList.filter (fun c ↦ ¬ Base64.IsNoise c) = Base64.encode bytes := by
    decide +kernel
  have encoded : Base64.Interspersed (Base64.encode bytes) content.toList :=
    noiseless ▸ Base64.interspersed_filter content.toList
  have holds : holdsContent content (answer w (contentRequest client commit "A.java")) = true := by
    decide +kernel
  obtain ⟨file, answered, member⟩ := holdsContent_iff.mp holds
  obtain ⟨text, fetched, same⟩ : ∃ text, (fetchContent client commit "A.java").run w [] = _ ∧ _ :=
    fetchContent_ascii encoded answered member
  exact ⟨encoded, ⟨file, answered, member⟩, text, congrArg Run.result fetched, same⟩

end EnumTables.Hosting
