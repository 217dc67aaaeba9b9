import ChatService.Main
import ChatService.Proofs.Calculator.Negation
import ChatService.Proofs.Calculator.Strict
import ChatService.Proofs.Hub.Confidentiality
import ChatService.Proofs.Hub.Delivery
import ChatService.Proofs.Hub.Passwords
import ChatService.Proofs.Hub.Refusal
import ChatService.Proofs.Server.Interruption
import ChatService.Proofs.Server.Isolation
import ChatService.Proofs.Store.Sessions
import ChatService.Proofs.Store.Accounts
import ChatService.Proofs.Server.Chunks
import ChatService.Proofs.Text.Utf8
import ChatService.Proofs.Json.ReadBack
import ChatService.Proofs.Protocol.Wire
import ChatService.Proofs.Client.Typing
import ChatService.Proofs.Store.Strict
import ChatService.Proofs.Hub.Strict
import ChatService.Proofs.Store.History
import ChatService.Proofs.Calculator.FeedBack
import ChatService.Proofs.Hub.Quotes
import ChatService.Proofs.Hub.Contacts
import ChatService.Proofs.Store.Credentials
import ChatService.Proofs.Hub.ChatLog
import ChatService.Proofs.Server.LineLimit
import ChatService.Proofs.Client.Quoting
import ChatService.Proofs.Command.Reachable
import ChatService.Proofs.Client.Reconnecting
import ChatService.Proofs.Hub.Weather
