import SpriteScribe.Block.Basic
import SpriteScribe.Block.Placeholder
import SpriteScribe.Block.Render
import SpriteScribe.Block.Template
import SpriteScribe.Command.Arguments
import SpriteScribe.Command.FileSystem
import SpriteScribe.Command.FileTree
import SpriteScribe.Command.Progress
import SpriteScribe.Command.Run
import SpriteScribe.Main
import SpriteScribe.Markup.Char
import SpriteScribe.Markup.Document
import SpriteScribe.Markup.Element
import SpriteScribe.Markup.Encoding
import SpriteScribe.Markup.Path
import SpriteScribe.Markup.QName
import SpriteScribe.Markup.Reader.Basic
import SpriteScribe.Markup.Reader.Content
import SpriteScribe.Markup.Reader.Declaration
import SpriteScribe.Markup.Reader.Doctype
import SpriteScribe.Markup.Reader.Tag
import SpriteScribe.Markup.Scanner
import SpriteScribe.Markup.SyntaxError
import SpriteScribe.Markup.Token
import SpriteScribe.Project.Build
import SpriteScribe.Project.Compile
import SpriteScribe.Project.Compiler
import SpriteScribe.Project.Error
import SpriteScribe.Proofs.Block.Boundaries
import SpriteScribe.Proofs.Block.Brackets
import SpriteScribe.Proofs.Block.Color
import SpriteScribe.Proofs.Block.Grammar
import SpriteScribe.Proofs.Block.Layout
import SpriteScribe.Proofs.Block.Literals
import SpriteScribe.Proofs.Block.Numbering
import SpriteScribe.Proofs.Block.Precedence
import SpriteScribe.Proofs.Block.Spreading
import SpriteScribe.Proofs.Block.Substitution
import SpriteScribe.Proofs.Command.Bar
import SpriteScribe.Proofs.Command.FileTree
import SpriteScribe.Proofs.Command.Progress
import SpriteScribe.Proofs.Command.Run
import SpriteScribe.Proofs.Command.Stages
import SpriteScribe.Proofs.Command.View
import SpriteScribe.Proofs.Lookup
import SpriteScribe.Proofs.Markup.Position
import SpriteScribe.Proofs.Markup.Search
import SpriteScribe.Proofs.Project.Acceptance
import SpriteScribe.Proofs.Project.Build
import SpriteScribe.Proofs.Project.Calls
import SpriteScribe.Proofs.Project.Essence
import SpriteScribe.Proofs.Project.Exhaustion
import SpriteScribe.Proofs.Project.Faults
import SpriteScribe.Proofs.Project.Framing
import SpriteScribe.Proofs.Project.Globals
import SpriteScribe.Proofs.Project.History
import SpriteScribe.Proofs.Project.Legality
import SpriteScribe.Proofs.Project.Nesting
import SpriteScribe.Proofs.Project.Notes
import SpriteScribe.Proofs.Project.Order
import SpriteScribe.Proofs.Project.Registry
import SpriteScribe.Proofs.Project.Renaming
import SpriteScribe.Proofs.Project.Strictness
import SpriteScribe.Proofs.Project.Warnings
import SpriteScribe.Proofs.Project.Wrapper
import SpriteScribe.Proofs.Sprite.Identifier
import SpriteScribe.Proofs.Sprite.Spelling
import SpriteScribe.Proofs.Text.Brackets
import SpriteScribe.Proofs.Text.Decimal
import SpriteScribe.Proofs.Text.Lines
import SpriteScribe.Proofs.Text.Lowercase
import SpriteScribe.Proofs.Text.Number
import SpriteScribe.Proofs.Text.Quoted
import SpriteScribe.Proofs.Text.Words
import SpriteScribe.Sprite.Basic
import SpriteScribe.Sprite.Identifier
import SpriteScribe.Text.Alphanumeric
import SpriteScribe.Text.Blank
import SpriteScribe.Text.CaseMap
import SpriteScribe.Text.Cased
import SpriteScribe.Text.CodeRange
import SpriteScribe.Text.Decimal
import SpriteScribe.Text.DecimalDigit
import SpriteScribe.Text.Lowercase
import SpriteScribe.Text.Quoted
import SpriteScribe.Text.Words
