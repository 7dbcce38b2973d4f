import RefSite.FileTree
import RefSite.Main
import RefSite.Proofs.Xml.Reference
import RefSite.Proofs.Xml.Scan
import RefSite.Proofs.Xml.Tag
import RefSite.Proofs.Xml.RoundTrip
import RefSite.Proofs.Xml.Prefix
import RefSite.Proofs.Xml.Truncation
import RefSite.Proofs.Text.Lowercase
import RefSite.Proofs.NameForm
import RefSite.Proofs.Path
import RefSite.Proofs.Family
import RefSite.Proofs.Site
import RefSite.Proofs.Accepted
import RefSite.Proofs.Layout
import RefSite.Proofs.BaseFolder
import RefSite.Proofs.Collision
import RefSite.Proofs.MenuOrder
import RefSite.Proofs.SiteMenu
import RefSite.Proofs.Dependence
import RefSite.Proofs.FileView
import RefSite.Proofs.Plan
import RefSite.Proofs.Run
import RefSite.Proofs.FileTree
import RefSite.Proofs.MenuTitle
import RefSite.Proofs.Ancestors
import RefSite.Proofs.Discovery
import RefSite.Proofs.Text.Blank
import RefSite.Proofs.Dedent
import RefSite.Proofs.FrontMatter
import RefSite.Proofs.CrossReference
import RefSite.Proofs.Fence
import RefSite.Proofs.Comment.Pieces
import RefSite.Proofs.Comment.Ticks
import RefSite.Proofs.Comment.CodeBlock
import RefSite.Proofs.Comment.Blocks
import RefSite.Proofs.DisplayMark
import RefSite.Proofs.FamilyIndex
import RefSite.Proofs.ComposedIdentifier
import RefSite.Proofs.TableRow
import RefSite.Proofs.Text.Run
import RefSite.Proofs.CodeSpan
import RefSite.Proofs.Backslash
import RefSite.Proofs.Comment.PlainText
import RefSite.Proofs.MemberLink
import RefSite.Proofs.TypePage
import RefSite.Proofs.Coverage
import RefSite.Proofs.NormalLines
import RefSite.Proofs.Letters
import RefSite.Proofs.Comment.InlineText
import RefSite.Proofs.Comment.ListText
import RefSite.Proofs.Text.LineEnd
import RefSite.Proofs.LineEnd
import RefSite.Proofs.Comment.LineEnd
import RefSite.Proofs.IdentifierSpace
import RefSite.Proofs.Project
import RefSite.Proofs.Layers
import RefSite.Proofs.Xml.Nesting
import RefSite.Proofs.Xml.CharacterReference
import RefSite.Proofs.Heading
