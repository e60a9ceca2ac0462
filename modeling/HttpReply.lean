import HttpReply.Text.Basic
import HttpReply.Text.Numeral
import HttpReply.Text.Slice
import HttpReply.Charset.Decode
import HttpReply.Charset.Default
import HttpReply.Uri.Percent
import HttpReply.Uri.Address
import HttpReply.Uri.Parser
import HttpReply.Uri.Printer
import HttpReply.Charset.Choice
import HttpReply.Body.Decode
import HttpReply.Body.Reading
import HttpReply.Header.Reader
import HttpReply.Cookie
import HttpReply.Status
import HttpReply.Response.Session
import HttpReply.Proofs.FirstFailure
import HttpReply.Proofs.Runs
import HttpReply.Proofs.TextCell
import HttpReply.Proofs.CookieCell
import HttpReply.Proofs.Cursors
import HttpReply.Proofs.BodyStreams
import HttpReply.Proofs.WrittenAttributes
import HttpReply.Proofs.CookieRendering
import HttpReply.Proofs.CookieFields
import HttpReply.Proofs.CookieLines
import HttpReply.Proofs.ChunkBoundaries
import HttpReply.Proofs.ChunkDecoding
import HttpReply.Proofs.DefaultCharset
import HttpReply.Proofs.HeaderGroups
import HttpReply.Proofs.TextSlices
import HttpReply.Proofs.Bounds
import HttpReply.Proofs.NamedCharset
import HttpReply.Proofs.Parts
import HttpReply.Proofs.Availability
import HttpReply.Proofs.Reports
import HttpReply.Proofs.RequestedCharset
import HttpReply.Proofs.UnicodeChunks
import HttpReply.Proofs.SingleBytes
import HttpReply.Proofs.BlockReads
import HttpReply.Proofs.CleanLabels
import HttpReply.Proofs.FirstParameter
import HttpReply.Proofs.Regrouping
import HttpReply.Proofs.References
import HttpReply.Proofs.Excerpts
import HttpReply.Proofs.CookieAges
