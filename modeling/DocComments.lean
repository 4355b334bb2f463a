import DocComments.Arena
import DocComments.Assembly
import DocComments.Comment.Classify
import DocComments.Comment.Error
import DocComments.Comment.Lines
import DocComments.Comment.Node
import DocComments.Declaration
import DocComments.Diagnostic
import DocComments.Entity
import DocComments.Link.Lookup
import DocComments.Link.Registration
import DocComments.Link.Registry
import DocComments.Link.Resolve
import DocComments.Markup.Block
import DocComments.Markup.Definition
import DocComments.Markup.Emphasis
import DocComments.Markup.Entity
import DocComments.Markup.EntityTable
import DocComments.Markup.Event
import DocComments.Markup.Html
import DocComments.Markup.Inline
import DocComments.Markup.LinkParts
import DocComments.Markup.Margin
import DocComments.Markup.Scan
import DocComments.Markup.Starts
import DocComments.Markup.Token
import DocComments.Markup.Tree
import DocComments.Name.Cursor
import DocComments.Name.Forms
import DocComments.Name.Operator
import DocComments.Outline
import DocComments.Position
import DocComments.Run
import DocComments.Section
import DocComments.Settings
import DocComments.Settings.File
import DocComments.Table
import DocComments.Text.Alphanumeric
import DocComments.Text.Blank
import DocComments.Text.CaseFold
import DocComments.Text.CodeSet
import DocComments.Text.Punctuation
import DocComments.Text.Quoted
import DocComments.Text.Unprintable
import DocComments.Toml.Document
import DocComments.Toml.Quoted
import DocComments.Toml.Scalar
import DocComments.Toml.Value
import DocComments.Proofs.Arena.Layout
import DocComments.Proofs.Arena.Reading
import DocComments.Proofs.Markup.Spine
import DocComments.Proofs.Comment.Recursive
import DocComments.Proofs.Markup.Siblings
import DocComments.Proofs.Comment.Sections
import DocComments.Proofs.Arena.Parents
import DocComments.Proofs.Assembly.Groups
import DocComments.Proofs.Assembly.Conservation
import DocComments.Proofs.Link.Declared
import DocComments.Proofs.Comment.Unbound
import DocComments.Proofs.Link.Destinations
import DocComments.Proofs.Link.Commuting
import DocComments.Proofs.Run.Order
import DocComments.Proofs.Assembly.Warnings
import DocComments.Proofs.Run.Collisions
import DocComments.Proofs.Comment.Origins
import DocComments.Proofs.Arena.Ordered
import DocComments.Proofs.Comment.Sound
import DocComments.Proofs.Arena.Contents
import DocComments.Proofs.Link.Emptied
import DocComments.Proofs.Link.Binding
import DocComments.Proofs.Link.Mentions
import DocComments.Proofs.Link.Resolution
import DocComments.Proofs.Link.Candidates
import DocComments.Proofs.Link.Coherent
import DocComments.Proofs.Link.Stable
import DocComments.Proofs.Link.ShortNames
import DocComments.Proofs.Comment.Commands
import DocComments.Proofs.Comment.Fences
import DocComments.Proofs.Link.Repeated
import DocComments.Proofs.Toml.Strings
import DocComments.Proofs.Toml.Lines
import DocComments.Proofs.Toml.Tables
import DocComments.Proofs.Settings.RoundTrip
import DocComments.Proofs.Arena.Families
import DocComments.Proofs.Assembly.Siblings
import DocComments.Proofs.Assembly.Metadata
import DocComments.Proofs.Assembly.Grouping
import DocComments.Proofs.Name.Delimited
import DocComments.Proofs.Link.MemberAccess
import DocComments.Proofs.Link.Relative
import DocComments.Proofs.Markup.Stream
import DocComments.Proofs.Markup.Replay
import DocComments.Proofs.Assembly.Parts
import DocComments.Proofs.Assembly.Sections
import DocComments.Proofs.Assembly.Accounts
import DocComments.Proofs.Link.Anchors
import DocComments.Proofs.Arena.Nested
import DocComments.Proofs.Comment.Order
import DocComments.Proofs.Name.Reading
import DocComments.Proofs.Name.Spelling
import DocComments.Proofs.Name.Aliases
import DocComments.Proofs.Text.Words
import DocComments.Proofs.Name.Scopes
import DocComments.Proofs.Name.OperatorTemplates
import DocComments.Proofs.Name.Nesting
import DocComments.Proofs.Name.Joining
import DocComments.Proofs.Comment.Decoration
import DocComments.Proofs.Markup.Removal
import DocComments.Proofs.Text.Slices
import DocComments.Proofs.Name.Bytes
import DocComments.Proofs.Name.Signature
import DocComments.Proofs.Name.ByteForms
import DocComments.Proofs.Name.MemberDots
