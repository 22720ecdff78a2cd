import EnumTables.Text.Blank
import EnumTables.Text.Word
import EnumTables.Text.Digit
import EnumTables.Text.Printable
import EnumTables.Text.Width
import EnumTables.Text.Lowercase
import EnumTables.Text.Quoted
import EnumTables.Text.Utf8
import EnumTables.Text.Base64
import EnumTables.Digest.Hmac
import EnumTables.Decimal.Layout
import EnumTables.Json.Reader
import EnumTables.Json.Writer
import EnumTables.Json.Display
import EnumTables.Json.Shape
import EnumTables.Json.Encoded
import EnumTables.Pattern.Reader
import EnumTables.Declaration.Lexer
import EnumTables.Declaration.Parser
import EnumTables.Table.Basic
import EnumTables.Console.Grid
import EnumTables.Act
import EnumTables.Sync
import EnumTables.Webhook.Endpoint
import EnumTables.CommandLine.Run
import EnumTables.Main
import EnumTables.Proofs.Declaration.Scan
import EnumTables.Proofs.Declaration.Unplaced
import EnumTables.Proofs.Declaration.Layout
import EnumTables.Proofs.Declaration.Written
import EnumTables.Proofs.Database.Statement
import EnumTables.Proofs.Database.Store
import EnumTables.Proofs.Database.Replay
import EnumTables.Proofs.Database.Lifecycle
import EnumTables.Proofs.Database.Replace
import EnumTables.Proofs.Database.Isolation
import EnumTables.Proofs.Webhook.Payload
import EnumTables.Proofs.Webhook.Calls
import EnumTables.Proofs.Webhook.Gate
import EnumTables.Proofs.Declaration.Lexeme
import EnumTables.Proofs.Declaration.Semicolon
import EnumTables.Proofs.Declaration.Keyword
import EnumTables.Proofs.Declaration.Grammar
import EnumTables.Proofs.Declaration.Position
import EnumTables.Proofs.Hosting.Fetch
import EnumTables.Proofs.Sync
import EnumTables.Proofs.Text.Lowercase
import EnumTables.Proofs.Table.Alignment
import EnumTables.Proofs.Table.WellFormed
import EnumTables.Proofs.Database.Succession
import EnumTables.Proofs.Console.Markup
import EnumTables.Proofs.InStep
import EnumTables.Proofs.CommandLine.Agreement
import EnumTables.Proofs.Hosting.Content
import EnumTables.Proofs.Database.Redelivery
import EnumTables.Proofs.Database.Interleaving
import EnumTables.Proofs.Database.Capacity
import EnumTables.Proofs.Database.ConnectionString
import EnumTables.Proofs.Declaration.Complete
import EnumTables.Proofs.Declaration.Locality
import EnumTables.Proofs.Database.Outline
import EnumTables.Proofs.Database.Ending
import EnumTables.Proofs.Webhook.Signature
import EnumTables.Proofs.Table.Inference
import EnumTables.Proofs.Table.Name
import EnumTables.Proofs.CommandLine.Transcript
import EnumTables.Proofs.Declaration.Cover
import EnumTables.Proofs.Hosting.Address
