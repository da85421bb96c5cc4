import StringOrigins.Main
import StringOrigins.Proofs.SourceMap.Provenance
import StringOrigins.Proofs.Step.Contract
import StringOrigins.Proofs.Step.History
import StringOrigins.Proofs.Step.Reporting
import StringOrigins.Proofs.Text.Line
import StringOrigins.Proofs.IdTable.Grammar
import StringOrigins.Proofs.IdTable.Range
import StringOrigins.Proofs.IdTable.Writing
import StringOrigins.Proofs.Xml.Lexeme
import StringOrigins.Proofs.Xml.Tree
import StringOrigins.Proofs.Xml.Writing
import StringOrigins.Proofs.Xml.Reference
import StringOrigins.Proofs.Xml.Token
import StringOrigins.Proofs.Xml.Element
import StringOrigins.Proofs.Xml.Content
import StringOrigins.Proofs.Xml.Document
import StringOrigins.Proofs.Xml.Encoding
import StringOrigins.Proofs.StringsFile.Written
import StringOrigins.Proofs.Xml.Lookahead
import StringOrigins.Proofs.Xml.Damage
import StringOrigins.Proofs.SourceMap.Account
import StringOrigins.Proofs.SourceMap.Damage
import StringOrigins.Proofs.Xml.Order
import StringOrigins.Proofs.StringsFile.Order
import StringOrigins.Proofs.SourceMap.Canonical
import StringOrigins.Proofs.SourceMap.Reordering
import StringOrigins.Proofs.SourceMap.Relocation
import StringOrigins.Proofs.SourceMap.Kinds
import StringOrigins.Proofs.Text.Decoding
import StringOrigins.Proofs.CommandLine.Carrying
